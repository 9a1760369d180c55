import LspClient.Json.Token

/-!
# Reading JSON

The keeping reader turns text into a value. Arrays and objects may be nested 127 deep. Of the
members of one name an object keeps the last, and it keeps its members in ascending order of names.

One name is reserved. An object whose first member bears it stands for the JSON text inside that
member's string, and has no other member. A reader can be told that nothing is embedded, and then
the name is like any other.
-/

namespace LspClient.Json

/-- How deep arrays and objects may be nested. -/
def greatestDepth : Nat :=
  127

/-- The reserved name of a member that holds embedded JSON text. -/
def embeddedName : List Char :=
  "$serde_json::private::RawValue".toList

mutual

/-- Reads one value, in which containers may still be nested `depth` deep. -/
def readValue (embeds : Bool) (depth : Nat) (s : List Char) : Reading Json s :=
  have hs := skipSpace_length_le s
  match ht : skipSpace s with
  | '[' :: r =>
    have hr : r.length < s.length := by simp only [ht, List.length_cons] at hs; omega
    match depth with
    | 0 => .error (.peek .tooDeep ('[' :: r))
    | depth + 1 =>
      match readElements embeds depth true [] r with
      | .error e => .error e
      | .ok t => .ok ⟨.array t.value, t.rest, Nat.lt_trans t.shorter hr⟩
  | '{' :: r =>
    have hr : r.length < s.length := by simp only [ht, List.length_cons] at hs; omega
    match depth with
    | 0 => .error (.peek .tooDeep ('{' :: r))
    | depth + 1 =>
      match readMembers embeds depth true [] r with
      | .error e => .error e
      | .ok t => .ok ⟨t.value, t.rest, Nat.lt_trans t.shorter hr⟩
  | t =>
    match hu : readScalar t with
    | .error e => .error e
    | .ok (v, u) =>
      .ok ⟨v, u, by have := readScalar_length_lt hu; simp only [ht] at hs; omega⟩
  termination_by 2 * s.length

/-- Reads the elements of an array up to its end, after those in `taken`, latest first. -/
def readElements (embeds : Bool) (depth : Nat) (first : Bool) (taken : List Json)
    (s : List Char) : Reading (List Json) s :=
  have hs := skipSpace_length_le s
  match ht : skipSpace s with
  | [] => .error ⟨.endInList, [], 0⟩
  | ']' :: r =>
    .ok ⟨taken.reverse, r, by simp only [ht, List.length_cons] at hs; omega⟩
  | c :: r =>
    if first then
      have hr : r.length + 1 ≤ s.length := by simp only [ht, List.length_cons] at hs; exact hs
      match readValue embeds depth (c :: r) with
      | .error e => .error e
      | .ok v =>
        have := v.shorter
        have : v.rest.length < s.length := by simp only [List.length_cons] at this; omega
        match readElements embeds depth false (v.value :: taken) v.rest with
        | .error e => .error e
        | .ok t => .ok (t.widen (by omega))
    else if c = ',' then
      have hu := skipSpace_length_le r
      match hw : skipSpace r with
      | [] => .error ⟨.endInValue, [], 0⟩
      | ']' :: r' => .error (.peek .trailingComma (']' :: r'))
      | w =>
        have hlt : w.length < s.length := by
          simp only [ht, hw, List.length_cons] at hs hu; omega
        match readValue embeds depth w with
        | .error e => .error e
        | .ok v =>
          have := v.shorter
          match readElements embeds depth false (v.value :: taken) v.rest with
          | .error e => .error e
          | .ok t => .ok (t.widen (by omega))
    else .error (.peek .expectedListCommaOrEnd (c :: r))
  termination_by 2 * s.length + 1

/-- Reads the members of an object up to its end, after those in `taken`, latest first. -/
def readMembers (embeds : Bool) (depth : Nat) (first : Bool) (taken : Members)
    (s : List Char) : Reading Json s :=
  have hs := skipSpace_length_le s
  match ht : skipSpace s with
  | [] => .error ⟨.endInObject, [], 0⟩
  | '}' :: r =>
    .ok ⟨.object (collect taken.reverse), r, by simp only [ht, List.length_cons] at hs; omega⟩
  | c :: r =>
    if first then
      if c = '"' then
        have hr : r.length < s.length := by simp only [ht, List.length_cons] at hs; omega
        match readMember embeds depth true taken r with
        | .error e => .error e
        | .ok t => .ok (t.widen (by omega))
      else .error (.peek .keyMustBeString (c :: r))
    else if c = ',' then
      have hu := skipSpace_length_le r
      match hw : skipSpace r with
      | [] => .error ⟨.endInValue, [], 0⟩
      | '"' :: w =>
        have hlt : w.length < s.length := by
          simp only [ht, hw, List.length_cons] at hs hu; omega
        match readMember embeds depth false taken w with
        | .error e => .error e
        | .ok t => .ok (t.widen (by omega))
      | '}' :: w => .error (.peek .trailingComma ('}' :: w))
      | w => .error (.peek .keyMustBeString w)
    else .error (.peek .expectedObjectCommaOrEnd (c :: r))
  termination_by 2 * s.length

/-- Reads a member whose opening quote has been read, and the members after it. -/
def readMember (embeds : Bool) (depth : Nat) (first : Bool) (taken : Members)
    (s : List Char) : Reading Json s :=
  match hn : memberName s with
  | .error e => .error e
  | .ok (name, r) =>
    have hr := memberName_length_lt hn
    if embeds ∧ first ∧ name = embeddedName then
      match readEmbedded r with
      | .error e => .error e
      | .ok t => .ok (t.widen (by omega))
    else
      match readValue embeds depth r with
      | .error e => .error e
      | .ok v =>
        have := v.shorter
        match readMembers embeds depth false ((String.ofList name, v.value) :: taken) v.rest with
        | .error e => .error e
        | .ok t => .ok (t.widen (by omega))
  termination_by 2 * s.length

/-- Reads a string that holds JSON text, and the end of the object it is alone in. -/
def readEmbedded (s : List Char) : Reading Json s :=
  have hs := skipSpace_length_le s
  match ht : skipSpace s with
  | '"' :: r =>
    match hu : stringTail [] r with
    | .error e => .error e
    | .ok (text, u) =>
      have hlt : text.length + u.length < s.length := by
        have := stringTail_length hu
        simp only [ht, List.length_cons, List.length_nil] at hs this; omega
      have hv := skipSpace_length_le u
      match readValue true greatestDepth text with
      | .error e => .error ⟨.mismatch (e.inEmbedded text), afterObject u, 0⟩
      | .ok v =>
        match skipSpace v.rest with
        | [] =>
          match hw : skipSpace u with
          | [] => .error ⟨.endInObject, [], 0⟩
          | '}' :: w =>
            .ok ⟨v.value, w, by simp only [hw, List.length_cons] at hv; omega⟩
          | ',' :: w => .error (.peek .trailingComma (',' :: w))
          | w => .error (.peek .trailingCharacters w)
        | w =>
          let fault := Fault.peek .trailingCharacters w
          .error ⟨.mismatch (fault.inEmbedded text), afterObject u, 0⟩
  | t => .error (wrongType "raw value" t)
  termination_by 2 * s.length

end

/-- Reads a text that is one value, with nothing but blanks around it. -/
def read (s : String) : Except Fault Json :=
  match readValue true greatestDepth s.toList with
  | .error e => .error e
  | .ok t =>
    match skipSpace t.rest with
    | [] => .ok t.value
    | r => .error (.peek .trailingCharacters r)

end LspClient.Json
