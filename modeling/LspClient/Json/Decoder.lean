import LspClient.Json.Reader

/-!
# Decoding JSON values

A decoder turns a value that has been read into a typed one, or says why it does not have that
shape. Integers are decoded within a range, `null` may stand for a missing or a default value, and a
value that is kept as it is gets the same treatment of embedded text as one that is read from text.
-/

namespace LspClient.Json

/-- Turns a value into a typed one, or says why it does not have that shape. -/
abbrev Decoder (α : Type) := Json → Except Mismatch α

/-- The mismatch of a value of another type than the one expected. -/
def unexpected {α : Type} (expected : String) (v : Json) : Except Mismatch α :=
  .error (.wrongType v.found expected)

/-- An integer from `low` to `high`. -/
def decodeInt (low high : Int) (expected : String) : Decoder Int
  | .number n =>
    match n.int? with
    | some i => if low ≤ i ∧ i ≤ high then .ok i else .error (.outOfRange n expected)
    | none => unexpected expected (.number n)
  | v => unexpected expected v

/-- A whole number below `limit`. -/
def decodeNat (limit : Nat) (expected : String) : Decoder Nat := fun v ↦
  (decodeInt 0 (limit - 1) expected v).map Int.toNat

/-- A truth value. -/
def decodeBool : Decoder Bool
  | .bool b => .ok b
  | v => unexpected "a boolean" v

/-- A string. -/
def decodeString : Decoder String
  | .string s => .ok s
  | v => unexpected "a string" v

/-- `null` and nothing else. -/
def decodeUnit : Decoder Unit
  | .null => .ok ()
  | v => unexpected "unit" v

/-- A value, or `null` for none. -/
def decodeOption {α : Type} (decode : Decoder α) : Decoder (Option α)
  | .null => .ok none
  | v => (decode v).map some

/-- A value, or `null` for the default one. -/
def orDefault {α : Type} (default : α) (decode : Decoder α) : Decoder α := fun v ↦
  (decodeOption decode v).map (·.getD default)

/-- An array of values. -/
def decodeList {α : Type} (decode : Decoder α) : Decoder (List α)
  | .array xs => xs.mapM decode
  | v => unexpected "a sequence" v

/-- An array of exactly two values. -/
def decodePair {α β : Type} (first : Decoder α) (second : Decoder β) : Decoder (α × β)
  | .array xs =>
    match xs with
    | [] => .error (.wrongLength 0 "a tuple of size 2")
    | x :: xs =>
      match first x with
      | .error e => .error e
      | .ok a =>
        match xs with
        | [] => .error (.wrongLength 1 "a tuple of size 2")
        | y :: rest =>
          match second y with
          | .error e => .error e
          | .ok b =>
            if rest.isEmpty then .ok (a, b)
            else .error (.wrongLength (rest.length + 2) "fewer elements in array")
  | v => unexpected "a tuple of size 2" v

/-- An object whose members' values have one type. -/
def decodeMap {α : Type} (decode : Decoder α) : Decoder (List (String × α))
  | .object ms => ms.mapM fun (name, v) ↦ (decode v).map fun a ↦ (name, a)
  | v => unexpected "a map" v

/-- The first alternative that fits, in a type that is called `type`. -/
def decodeEither {α : Type} (type : String) (first second : Decoder α) : Decoder α := fun v ↦
  match first v with
  | .ok a => .ok a
  | .error _ =>
    match second v with
    | .ok a => .ok a
    | .error _ => .error (.noVariant type)

/-- The value of embedded text, given what it stands in; `expected` words the complaint about other
members beside it. -/
def decodeEmbedded (expected : String) (v : Json) (others : Members) : Except Mismatch Json :=
  match v with
  | .string s =>
    match read s with
    | .error e => .error (e.inEmbedded s.toList)
    | .ok w =>
      if others.isEmpty then .ok w else .error (.wrongLength (others.length + 1) expected)
  | v => unexpected "raw value" v

mutual

/-- A value as it is, embedded text replaced by what it stands for. -/
def decodeValue (expected : String) : Decoder Json
  | .null => .ok .null
  | .bool b => .ok (.bool b)
  | .number n => .ok (.number n)
  | .string s => .ok (.string s)
  | .array xs => (decodeValues expected xs).map .array
  | .object [] => .ok (.object [])
  | .object ((name, v) :: ms) =>
    if name.toList = embeddedName then decodeEmbedded expected v ms
    else
      match decodeValue expected v with
      | .error e => .error e
      | .ok w => (decodeMembers expected ms).map fun ms ↦ .object ((name, w) :: ms)

/-- `decodeValue` for each element. -/
def decodeValues (expected : String) : List Json → Except Mismatch (List Json)
  | [] => .ok []
  | x :: xs =>
    match decodeValue expected x with
    | .error e => .error e
    | .ok y => (decodeValues expected xs).map (y :: ·)

/-- `decodeValue` for each member's value. -/
def decodeMembers (expected : String) : Members → Except Mismatch Members
  | [] => .ok []
  | (name, v) :: ms =>
    match decodeValue expected v with
    | .error e => .error e
    | .ok w => (decodeMembers expected ms).map ((name, w) :: ·)

end

/-- How a value that is decoded on its own complains about members beside embedded text. -/
def aloneInValue : String :=
  "fewer elements in map"

/-- How a value that is part of a larger one complains about members beside embedded text. -/
def aloneInPart : String :=
  "1 element in map"

/-- An object whose members are kept as they are. -/
def decodeObject : Decoder Members
  | .object ms => decodeMembers aloneInPart ms
  | v => unexpected "a map" v

end LspClient.Json
