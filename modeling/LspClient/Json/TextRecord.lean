import LspClient.Json.Reader
import LspClient.Json.Skipper

/-!
# Records read straight from text

A record with a few known members can be read without keeping the value it stands in. Members come
in any order and unknown ones are skipped; an array stands for the record with its members in their
declared order, the last of which may be missing. What is taken in is a state that each member or
element moves on.
-/

namespace LspClient.Json

/-- How deep containers may be nested inside a record. -/
def innerDepth : Nat :=
  greatestDepth - 1

/-- A record that is read from text. -/
structure TextRecord (σ : Type) where
  /-- What messages call it. -/
  name : String
  /-- What is known before anything is read. -/
  start : σ
  /-- Takes in a member of an object, given its name and the text after the name. -/
  member : σ → (name : List Char) → (s : List Char) → Reading σ s
  /-- Takes in an element of an array at the given place, unless the record has no such place. -/
  element : σ → (place : Nat) → Option ((s : List Char) → Reading σ s)

/-- Reads the colon after a member's name. -/
def colon (s : List Char) : Reading Unit s :=
  match h : skipSpace s with
  | [] => .error ⟨.endInObject, [], 0⟩
  | ':' :: r =>
    .ok ⟨(), r, length_lt_of_skipSpace_eq_cons h⟩
  | r => .error (.peek .expectedColon r)

/-- Reads something after a colon. -/
def afterColon {α : Type} (read : (s : List Char) → Reading α s) (s : List Char) : Reading α s :=
  match colon s with
  | .error e => .error e
  | .ok t =>
    match read t.rest with
    | .error e => .error e
    | .ok v => .ok (v.widen (Nat.le_of_lt t.shorter))

/-- Reads a value that may be `null`. -/
def orNull {α : Type} (read : (s : List Char) → Reading α s) (s : List Char) :
    Reading (Option α) s :=
  match ht : skipSpace s with
  | 'n' :: r =>
    match hw : word ['u', 'l', 'l'] r with
    | .error e => .error e
    | .ok u =>
      .ok ⟨none, u, Nat.lt_of_le_of_lt (word_length_le hw) (length_lt_of_skipSpace_eq_cons ht)⟩
  | _ => (read s).map (·.map some)

namespace TextRecord

variable {σ : Type} (record : TextRecord σ)

/-- Reads the end of an array in which every place of the record has been taken. -/
def readArrayEnd (state : σ) (s : List Char) : Reading σ s :=
  match h : skipSpace s with
  | [] => .error ⟨.endInList, [], 0⟩
  | ']' :: r =>
    .ok ⟨state, r, length_lt_of_skipSpace_eq_cons h⟩
  | ',' :: r =>
    match skipSpace r with
    | ']' :: r' => .error (.peek .trailingComma (']' :: r'))
    | r' => .error (.peek .trailingCharacters r')
  | r => .error (.peek .trailingCharacters r)

/-- Reads the elements of an array up to its end. -/
def readElements (place : Nat) (state : σ) (s : List Char) : Reading σ s :=
  match record.element state place with
  | none => readArrayEnd state s
  | some read =>
    match ht : skipSpace s with
    | [] => .error ⟨.endInList, [], 0⟩
    | ']' :: r => .ok ⟨state, r, length_lt_of_skipSpace_eq_cons ht⟩
    | c :: r =>
      if place = 0 then
        match read (c :: r) with
        | .error e => .error e
        | .ok t =>
          have h : t.rest.length < s.length :=
            Nat.lt_of_lt_of_le t.shorter (length_lt_of_skipSpace_eq_cons ht)
          match readElements (place + 1) t.value t.rest with
          | .error e => .error e
          | .ok u => .ok (u.widen (Nat.le_of_lt h))
      else if c = ',' then
        match hw : skipSpace r with
        | [] => .error ⟨.endInValue, [], 0⟩
        | ']' :: w => .error (.peek .trailingComma (']' :: w))
        | w =>
          match read w with
          | .error e => .error e
          | .ok t =>
            have h : t.rest.length < s.length :=
              Nat.lt_trans (Nat.lt_of_lt_of_le t.shorter (length_le_of_skipSpace_eq hw))
                (length_lt_of_skipSpace_eq_cons ht)
            match readElements (place + 1) t.value t.rest with
            | .error e => .error e
            | .ok u => .ok (u.widen (Nat.le_of_lt h))
      else .error (.peek .expectedListCommaOrEnd (c :: r))
  termination_by s.length

/-- Reads a member whose opening quote has been read. -/
def readMember (state : σ) (s : List Char) : Reading σ s :=
  match hn : stringTail [] s with
  | .error e => .error e
  | .ok (name, r) =>
    match record.member state name r with
    | .error e => .error e
    | .ok t =>
      .ok (t.widen (Nat.le_of_lt (stringTail_nil_length_lt hn)))

/-- Reads the members of an object up to its end. -/
def readMembers (first : Bool) (state : σ) (s : List Char) : Reading σ s :=
  match ht : skipSpace s with
  | [] => .error ⟨.endInObject, [], 0⟩
  | '}' :: r => .ok ⟨state, r, length_lt_of_skipSpace_eq_cons ht⟩
  | c :: r =>
    if first then
      if c = '"' then
        match record.readMember state r with
        | .error e => .error e
        | .ok t =>
          have h : t.rest.length < s.length :=
            Nat.lt_trans t.shorter (length_lt_of_skipSpace_eq_cons ht)
          match readMembers false t.value t.rest with
          | .error e => .error e
          | .ok u => .ok (u.widen (Nat.le_of_lt h))
      else .error (.peek .keyMustBeString (c :: r))
    else if c = ',' then
      match hw : skipSpace r with
      | [] => .error ⟨.endInValue, [], 0⟩
      | '"' :: w =>
        match record.readMember state w with
        | .error e => .error e
        | .ok t =>
          have h : t.rest.length < s.length :=
            Nat.lt_trans (Nat.lt_trans t.shorter (length_lt_of_skipSpace_eq_cons hw))
              (length_lt_of_skipSpace_eq_cons ht)
          match readMembers false t.value t.rest with
          | .error e => .error e
          | .ok u => .ok (u.widen (Nat.le_of_lt h))
      | '}' :: w => .error (.peek .trailingComma ('}' :: w))
      | w => .error (.peek .keyMustBeString w)
    else .error (.peek .expectedObjectCommaOrEnd (c :: r))
  termination_by s.length

/-- Reads a text that is one record, with nothing but blanks around it. -/
def read (text : List Char) : Except Fault σ :=
  let taken : Except Fault (σ × List Char) :=
    match skipSpace text with
    | '[' :: r => (record.readElements 0 record.start r).map fun t ↦ (t.value, t.rest)
    | '{' :: r => (record.readMembers true record.start r).map fun t ↦ (t.value, t.rest)
    | r => .error (wrongType record.name r)
  match taken with
  | .error e => .error e
  | .ok (state, rest) =>
    match skipSpace rest with
    | [] => .ok state
    | r => .error (.peek .trailingCharacters r)

end TextRecord

end LspClient.Json
