import LspClient.Json.Printer

/-!
# Ids

What a response is matched to its request by: `null`, a whole number or a string.
-/

namespace LspClient

/-- The id of a request or a response. -/
inductive Id where
  | null
  | number (n : UInt64)
  | string (s : String)
  deriving DecidableEq, Repr

namespace Id

/-- An id as a JSON value. -/
def json : Id → Json
  | .null => .null
  | .number n => .ofNat n
  | .string s => .string s

/-- The id that a JSON value stands for, if it has the shape of one. -/
def ofJson? : Json → Option Id
  | .null => some .null
  | .number (.natural n) => some (.number n)
  | .string s => some (.string s)
  | _ => none

/-- An id as a message shows it. -/
def shown : Id → String
  | .null => "null"
  | .number n => Decimal.text n.toNat
  | .string s => s

end Id

end LspClient
