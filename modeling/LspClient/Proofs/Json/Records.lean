import LspClient.Json.TextRecord
import LspClient.Proofs.Json.Skipping

/-!
# Records read straight from text

What a reader of records makes of an object is what its members make of its state one after
another. Each step of the reader is stated of the text ahead: the first member follows at once, and
every other one after a comma (`Ahead`).
-/

namespace LspClient.Json

variable {α : Type} {s r u rest : List Char}

/-! ### Parts of a member -/

theorem strip_afterColon (read : (s : List Char) → Reading α s) (h : skipSpace s = ':' :: r) :
    strip (afterColon read s) = strip (read r) := by
  have hcolon : colon s = .ok ⟨(), r, length_lt_of_skipSpace_eq_cons h⟩ := by
    rw [colon]
    grind
  simp only [afterColon, hcolon]
  cases read r <;> rfl

/-- The word `null` is no value. -/
theorem orNull_null {read : (s : List Char) → Reading α s}
    (h : skipSpace s = 'n' :: 'u' :: 'l' :: 'l' :: rest) : Reads (orNull read s) none rest := by
  have hword : word ['u', 'l', 'l'] ('u' :: 'l' :: 'l' :: rest) = .ok rest := word_append _ rest
  have hlt : rest.length < s.length :=
    Nat.lt_of_le_of_lt (word_length_le hword) (length_lt_of_skipSpace_eq_cons h)
  refine ⟨hlt, ?_⟩
  rw [orNull]
  grind

/-- Anything that begins otherwise is a value. -/
theorem orNull_some {read : (s : List Char) → Reading α s} {v : α} {c : Char}
    (h : skipSpace s = c :: r) (hc : c ≠ 'n') (hread : Reads (read s) v rest) :
    Reads (orNull read s) (some v) rest := by
  obtain ⟨hlt, hread⟩ := hread
  refine ⟨hlt, ?_⟩
  rw [orNull]
  split
  · rename_i heq
    rw [h] at heq
    injection heq with heq
    exact absurd heq hc
  · rw [hread]
    rfl

/-! ### Members -/

/-- The opening quote of the next member is ahead, with `r` behind it: the first member follows at
once, and every other one after a comma. -/
def Ahead (first : Bool) (s r : List Char) : Prop :=
  match first with
  | true => skipSpace s = '"' :: r
  | false => ∃ u, skipSpace s = ',' :: u ∧ skipSpace u = '"' :: r

/-- The next item begins with `t`: the first one follows at once, and every other one after a
comma. -/
def Begins (first : Bool) (s t : List Char) : Prop :=
  match first with
  | true => skipSpace s = t
  | false => ∃ u, skipSpace s = ',' :: u ∧ skipSpace u = t

theorem Begins.length_le {first : Bool} (h : Begins first s t) : t.length ≤ s.length := by
  cases first with
  | true => exact length_le_of_skipSpace_eq h
  | false =>
    obtain ⟨u, hcomma, ht⟩ := h
    exact Nat.le_trans (length_le_of_skipSpace_eq ht)
      (Nat.le_of_lt (length_lt_of_skipSpace_eq_cons hcomma))

/-- Where an item begins, the end of the array is not ahead. -/
theorem Begins.skipSpace_ne {first : Bool} {c : Char} (h : Begins first s (c :: t)) (hc : c ≠ ']')
    (r : List Char) : skipSpace s ≠ ']' :: r := by
  intro hs
  cases first with
  | true =>
    cases hs.symm.trans h
    exact hc rfl
  | false =>
    obtain ⟨u, hcomma, -⟩ := h
    cases hs.symm.trans hcomma

namespace TextRecord

variable {σ : Type} {record : TextRecord σ} {state state' : σ}

theorem strip_readMember {name : List Char} (hname : stringTail [] s = .ok (name, r)) :
    strip (record.readMember state s) = strip (record.member state name r) := by
  rw [readMember]
  split
  · rename_i herr
    rw [hname] at herr
    cases herr
  · rename_i hok
    rw [hname] at hok
    injection hok with hok
    injection hok with hn hr
    subst hn hr
    cases record.member state name r <;> rfl

theorem strip_readMembers_end (first : Bool) (h : skipSpace s = '}' :: r) :
    strip (record.readMembers first state s) = .ok (state, r) := by
  rw [readMembers.eq_def]
  grind [strip, Except.map]

/-- A member moves the state on, and the members after it go on from there. -/
theorem strip_readMembers_member {first : Bool} (h : Ahead first s r) :
    strip (record.readMembers first state s) =
      (strip (record.readMember state r)).bind fun p ↦
        strip (record.readMembers false p.1 p.2) := by
  rw [readMembers.eq_def]
  cases first <;> grind [strip, Except.map, Except.bind, Taken.widen, Ahead]

/-- Members are read only where there is one, or the end of the object. -/
theorem ahead_of_readMembers {first : Bool} {p : σ × List Char}
    (h : strip (record.readMembers first state s) = .ok p) :
    (∃ r, skipSpace s = '}' :: r) ∨ ∃ r, Ahead first s r := by
  rw [readMembers.eq_def] at h
  cases first with
  | true =>
    show _ ∨ ∃ r, skipSpace s = '"' :: r
    grind [strip, Except.map]
  | false =>
    show _ ∨ ∃ r u, skipSpace s = ',' :: u ∧ skipSpace u = '"' :: r
    grind [strip, Except.map]

theorem stringTail_of_readMember {p : σ × List Char}
    (h : strip (record.readMember state s) = .ok p) :
    ∃ name r, stringTail [] s = .ok (name, r) := by
  rw [readMember] at h
  grind [strip, Except.map]

/-! ### Elements -/

theorem strip_readElements_end {place : Nat} (h : skipSpace s = ']' :: r) :
    strip (record.readElements place state s) = .ok (state, r) := by
  rw [readElements.eq_def]
  grind [strip, Except.map, readArrayEnd]

/-- An element moves the state on, and the elements after it go on from there. -/
theorem strip_readElements_item {place : Nat} {read : (s : List Char) → Reading σ s} {c : Char}
    (hread : record.element state place = some read) (h : Begins (decide (place = 0)) s (c :: r))
    (hc : c ≠ ']') :
    strip (record.readElements place state s) =
      (strip (read (c :: r))).bind fun p ↦
        strip (record.readElements (place + 1) p.1 p.2) := by
  rw [readElements.eq_def]
  simp only [hread]
  by_cases hplace : place = 0
  · subst hplace
    grind [strip, Except.map, Except.bind, Taken.widen, Begins]
  · rw [decide_eq_false hplace] at h
    obtain ⟨u, hcomma, hu⟩ := h
    grind [strip, Except.map, Except.bind, Taken.widen]

/-- Elements are read only where the record has a place and there is one, or at the end of the
array. -/
theorem begins_of_readElements {place : Nat} {p : σ × List Char}
    (h : strip (record.readElements place state s) = .ok p) :
    (∃ r, skipSpace s = ']' :: r) ∨ ∃ read c t, record.element state place = some read ∧
      Begins (decide (place = 0)) s (c :: t) ∧ c ≠ ']' := by
  rw [readElements.eq_def] at h
  cases hread : record.element state place with
  | none =>
    simp only [hread] at h
    refine .inl ?_
    grind [strip, Except.map, readArrayEnd]
  | some read =>
    simp only [hread] at h
    by_cases hplace : place = 0
    · have hnext : (∃ r, skipSpace s = ']' :: r) ∨ ∃ c t, skipSpace s = c :: t ∧ c ≠ ']' := by
        grind [strip, Except.map]
      refine hnext.imp_right ?_
      rintro ⟨c, t, hs, hc⟩
      exact ⟨read, c, t, rfl, by rwa [decide_eq_true hplace], hc⟩
    · have hnext : (∃ r, skipSpace s = ']' :: r) ∨
          ∃ u, skipSpace s = ',' :: u ∧ skipSpace u ≠ [] ∧ ∀ t, skipSpace u ≠ ']' :: t := by
        grind [strip, Except.map]
      refine hnext.imp_right ?_
      rintro ⟨u, hcomma, hne, hend⟩
      obtain ⟨c, t, hu⟩ := List.exists_cons_of_ne_nil hne
      refine ⟨read, c, t, rfl, ?_, ?_⟩
      · rw [decide_eq_false hplace]
        exact ⟨u, hcomma, hu⟩
      · rintro rfl
        exact hend t hu

/-! ### Whole texts -/

/-- What has been taken in, where nothing but blanks is left. -/
def finish (p : σ × List Char) : Except Fault σ :=
  match skipSpace p.2 with
  | [] => .ok p.1
  | r => .error (.peek .trailingCharacters r)

theorem finish_eq_ok {p : σ × List Char} (h : finish p = .ok state) :
    p.1 = state ∧ skipSpace p.2 = [] := by
  rw [finish] at h
  split at h
  case h_1 hend => exact ⟨Except.ok.inj h, hend⟩
  case h_2 => cases h

/-- An object is read up to its end, and nothing but blanks may follow. -/
theorem read_object {text : List Char} (htext : skipSpace text = '{' :: s) :
    record.read text = (strip (record.readMembers true record.start s)).bind finish := by
  rw [read]
  simp only [htext, strip]
  cases record.readMembers true record.start s <;> rfl

/-- A record in an array is read as its elements in order. -/
theorem read_array {text : List Char} (htext : skipSpace text = '[' :: s) :
    record.read text = (strip (record.readElements 0 record.start s)).bind finish := by
  rw [read]
  simp only [htext, strip]
  cases record.readElements 0 record.start s <;> rfl

/-- A record is read from an array or an object. -/
theorem opening_of_read {text : List Char} (h : record.read text = .ok state) :
    ∃ s, skipSpace text = '[' :: s ∨ skipSpace text = '{' :: s := by
  rw [read] at h
  grind

end TextRecord

/-! ### Members of the grammar -/

/-- The first of the members `u` is ahead at once, and after other members there is a comma. -/
def Follows (first : Bool) (t u : List Char) : Prop :=
  match first with
  | true => t = u
  | false => ∃ gap : Blank, t = gap.chars ++ ',' :: u

theorem follows_first (u : List Char) : Follows true u u := rfl

theorem follows_next (gap : Blank) (u : List Char) : Follows false (gap.chars ++ ',' :: u) u :=
  ⟨gap, rfl⟩

theorem follows_comma (u : List Char) : Follows false (',' :: u) u := follows_next .none u

/-- What is there begins with its first token. -/
theorem Follows.begins {first : Bool} {t u w : List Char} (h : Follows first t u)
    (hu : skipSpace u = w) : Begins first t w := by
  cases first with
  | true => exact h ▸ hu
  | false =>
    obtain ⟨gap, rfl⟩ := h
    exact ⟨u, by rw [skipSpace_append, skipSpace_cons (by decide)], hu⟩

theorem Follows.ahead {first : Bool} {t : List Char} {before after between : Blank}
    {name value behind : List Char}
    (h : Follows first t (memberText before name after between value ++ behind)) :
    Ahead first t
      (name ++ '"' :: (after.chars ++ ':' :: (between.chars ++ (value ++ behind)))) := by
  have hskip : skipSpace (memberText before name after between value ++ behind) =
      '"' :: (name ++ '"' :: (after.chars ++ ':' :: (between.chars ++ (value ++ behind)))) := by
    rw [memberText_append, skipSpace_append, skipSpace_cons (by decide)]
  have hbegins := h.begins hskip
  cases first <;> exact hbegins

end LspClient.Json
