import LspClient.Decimal.Binary64

/-!
# JSON values

A number is kept as an integer when its literal is one that fits in 64 bits, with or without a sign,
and as a binary64 number otherwise. An object is the list of its members in the order in which they
are written; the values that a reader keeps have their members in ascending order of names, each
name once (`Json.collect`), so that two such values are equal when they have the same members.
-/

namespace LspClient

/-- A JSON number. -/
inductive Json.Number where
  /-- A whole number from zero. -/
  | natural (n : UInt64)
  /-- The negative integer `-(k + 1)`. -/
  | negative (k : Fin 9223372036854775808)
  /-- A number with a fraction or an exponent, or an integer beyond 64 bits. -/
  | real (x : Binary64)
  deriving DecidableEq, Repr

/-- A JSON value. -/
inductive Json where
  | null
  | bool (b : Bool)
  | number (n : Json.Number)
  | string (s : String)
  | array (elements : List Json)
  | object (members : List (String × Json))
  deriving Repr, Inhabited

namespace Json

/-- The members of an object, in the order in which they are written. -/
abbrev Members := List (String × Json)

/-- A whole number. -/
def ofNat (n : UInt64) : Json :=
  .number (.natural n)

/-- The integer of a number that was kept as one. -/
def Number.int? : Number → Option Int
  | .natural n => some n.toNat
  | .negative k => some (Int.negSucc k)
  | .real _ => none

/-- The number for an integer, if it fits in 64 bits with or without a sign. -/
def Number.ofInt? : Int → Option Number
  | .ofNat n => if n < UInt64.size then some (.natural (.ofNat n)) else none
  | .negSucc k => if h : k < 9223372036854775808 then some (.negative ⟨k, h⟩) else none

/-- Puts a member into members in ascending order of names, in place of one of that name. -/
def insert (name : String) (v : Json) : Members → Members
  | [] => [(name, v)]
  | (k, w) :: rest =>
    if name < k then (name, v) :: (k, w) :: rest
    else if name = k then (name, v) :: rest
    else (k, w) :: insert name v rest

/-- The members in ascending order of names, the last of each name. -/
def collect (members : Members) : Members :=
  members.foldl (fun acc (name, v) ↦ insert name v acc) []

mutual

/-- The value with the members of every object in ascending order of names. -/
def sorted : Json → Json
  | .array xs => .array (sortedElements xs)
  | .object ms => .object (collect (sortedMembers ms))
  | .null => .null
  | .bool b => .bool b
  | .number n => .number n
  | .string s => .string s

/-- `Json.sorted` for each element. -/
def sortedElements : List Json → List Json
  | [] => []
  | x :: xs => sorted x :: sortedElements xs

/-- `Json.sorted` for each member's value. -/
def sortedMembers : Members → Members
  | [] => []
  | (name, v) :: ms => (name, sorted v) :: sortedMembers ms

end

/-- The member of that name in an object; `null` for every other value and where there is none. -/
def get (v : Json) (name : String) : Json :=
  match v with
  | .object ms => ((ms.find? (·.1 == name)).map (·.2)).getD .null
  | _ => .null

/-- An optional value, written as `null` when there is none. -/
def ofOption {α : Type} (f : α → Json) : Option α → Json
  | none => .null
  | some a => f a

end Json

end LspClient
