import LspClient.Json.Printer

/-!
# Values of the wrong shape

Why a JSON value is not what was asked for, and the wording of each cause. An object, an array and
`null` are named, a scalar is shown.
-/

namespace LspClient.Json

/-- What stood where something else was expected. -/
inductive Found where
  | null
  | bool (b : Bool)
  | number (n : Number)
  | string (s : String)
  | sequence
  | map
  deriving DecidableEq, Repr

/-- How a value is named in a message. -/
def found : Json → Found
  | .null => .null
  | .bool b => .bool b
  | .number n => .number n
  | .string s => .string s
  | .array _ => .sequence
  | .object _ => .map

/-- Why a value does not have the shape asked for. -/
inductive Mismatch where
  /-- A value of another type. -/
  | wrongType (found : Found) (expected : String)
  /-- An integer outside the range asked for. -/
  | outOfRange (n : Number) (expected : String)
  /-- An array, or an object, of the wrong length. -/
  | wrongLength (length : Nat) (expected : String)
  /-- A required member that is not there. -/
  | missingField (name : String)
  /-- A member that is there twice, in one spelling or in both. -/
  | duplicateField (name : String)
  /-- A value that is none of the alternatives of a type. -/
  | noVariant (type : String)
  /-- A number that names no way of synchronising documents. -/
  | unknownSyncKind (n : Nat)
  /-- A text inside a value that is not JSON, with the wording of its fault and where in that text
  the fault is. -/
  | embedded (wording : String) (line column : Nat)
  deriving DecidableEq, Repr

/-- A number as a message shows it. -/
def Number.shown (n : Number) : String :=
  match n with
  | .natural _ | .negative _ => s!"integer `{String.ofList n.print}`"
  | .real _ => s!"floating point `{String.ofList n.print}`"

/-- The wording of what was found. -/
def Found.message : Found → String
  | .null => "null"
  | .bool b => s!"boolean `{String.ofList (printBool b)}`"
  | .number n => n.shown
  | .string s => s!"string {Text.quote s}"
  | .sequence => "sequence"
  | .map => "map"

/-- A wording with the place it is about. -/
def atPlace (wording : String) (line column : Nat) : String :=
  s!"{wording} at line {Decimal.text line} column {Decimal.text column}"

/-- The wording of a mismatch. -/
def Mismatch.message : Mismatch → String
  | .wrongType found expected => s!"invalid type: {found.message}, expected {expected}"
  | .outOfRange n expected => s!"invalid value: {n.shown}, expected {expected}"
  | .wrongLength length expected => s!"invalid length {Decimal.text length}, expected {expected}"
  | .missingField name => s!"missing field `{name}`"
  | .duplicateField name => s!"duplicate field `{name}`"
  | .noVariant type => s!"data did not match any variant of untagged enum {type}"
  | .unknownSyncKind n => s!"unknown text document sync kind {Decimal.text n}"
  | .embedded wording line column => atPlace wording line column

end LspClient.Json
