import LspClient.Json.Basic
import LspClient.Decimal.Shortest
import LspClient.Json.Printer

/-!
# Params

The values that a caller may pass as params, and how they are put into an envelope. Most values have
a JSON form. An integer beyond 64 bits has none, nor has a map whose keys are not strings,
characters, numbers or truth values, and a value may refuse by itself. A float that is not finite
becomes `null`.

On the wire, `null` params are left out. Positional params are an array: a value that is no array is
sent as its only element. By name, params are sent as they are.
-/

namespace LspClient

/-- A value that a caller passes as params. -/
inductive Payload where
  /-- A JSON value. -/
  | json (v : Json)
  /-- No value. -/
  | nothing
  | bool (b : Bool)
  | int (i : Int)
  /-- A float; none if it is not finite. -/
  | float (x : Option Binary64)
  | char (c : Char)
  | string (s : String)
  | sequence (xs : List Payload)
  | map (entries : List (Payload × Payload))
  /-- Named fields, in their declared order. -/
  | record (fields : List (String × Payload))
  /-- A value that will not be serialized, with its reason. -/
  | refusing (reason : String)

/-- Why params have no JSON form. -/
inductive PayloadFault where
  | numberOutOfRange
  | keyMustBeString
  | refused (reason : String)
  deriving DecidableEq, Repr

/-- The wording of a fault. -/
def PayloadFault.message : PayloadFault → String
  | .numberOutOfRange => "number out of range"
  | .keyMustBeString => "key must be a string"
  | .refused reason => reason

namespace Payload

/-- The JSON form of an integer. -/
def ofInt (i : Int) : Except PayloadFault Json :=
  match Json.Number.ofInt? i with
  | some n => .ok (.number n)
  | none => .error .numberOutOfRange

/-- The name of the member that a key of a map becomes. -/
def key : Payload → Except PayloadFault String
  | .json (.string s) | .string s => .ok s
  | .char c => .ok (String.singleton c)
  | .bool b | .json (.bool b) => .ok (String.ofList (Json.printBool b))
  | .int i => .ok (Decimal.signedText i)
  | .json (.number n) => .ok (String.ofList n.print)
  | .float (some x) => .ok (String.ofList (Json.decimals.renderBinary64 x))
  | .refusing reason => .error (.refused reason)
  | _ => .error .keyMustBeString

mutual

/-- The JSON form of a value, its objects' members in ascending order of names. -/
def toJson : Payload → Except PayloadFault Json
  | .json v => .ok v.sorted
  | .nothing => .ok .null
  | .bool b => .ok (.bool b)
  | .int i => ofInt i
  | .float none => .ok .null
  | .float (some x) => .ok (.number (.real x))
  | .char c => .ok (.string (String.singleton c))
  | .string s => .ok (.string s)
  | .sequence xs => (sequenceToJson xs).map .array
  | .map entries => (mapToJson entries).map fun ms ↦ .object (Json.collect ms)
  | .record fields => (recordToJson fields).map fun ms ↦ .object (Json.collect ms)
  | .refusing reason => .error (.refused reason)

/-- The JSON forms of the elements of a sequence. -/
def sequenceToJson : List Payload → Except PayloadFault (List Json)
  | [] => .ok []
  | x :: xs =>
    match toJson x with
    | .error e => .error e
    | .ok v => (sequenceToJson xs).map (v :: ·)

/-- The members that the entries of a map become. -/
def mapToJson : List (Payload × Payload) → Except PayloadFault Json.Members
  | [] => .ok []
  | (k, x) :: entries =>
    match key k with
    | .error e => .error e
    | .ok name =>
      match toJson x with
      | .error e => .error e
      | .ok v => (mapToJson entries).map ((name, v) :: ·)

/-- The members that the fields of a record become. -/
def recordToJson : List (String × Payload) → Except PayloadFault Json.Members
  | [] => .ok []
  | (name, x) :: fields =>
    match toJson x with
    | .error e => .error e
    | .ok v => (recordToJson fields).map ((name, v) :: ·)

end

end Payload

/-- How params are put on the wire. -/
inductive ParamsStyle where
  /-- Always as an array. -/
  | positional
  /-- As they are. -/
  | byName
  deriving DecidableEq, Repr

/-- The params of an envelope, if it has any. -/
def ParamsStyle.encode : ParamsStyle → Json → Option Json
  | _, .null => none
  | .positional, .array xs => some (.array xs)
  | .positional, v => some (.array [v])
  | .byName, v => some v

end LspClient
