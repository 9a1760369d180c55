import LspClient.Json.Reader
import LspClient.Proofs.Json.Records

/-!
# Steps of the keeping reader

What the keeping reader does once the text ahead is known, one equation for each case, and what can
be ahead where it succeeds.
-/

namespace LspClient.Json

variable {embeds first : Bool} {depth : Nat} {s r u : List Char} {c : Char}

/-- A bound result came from results. -/
theorem exists_of_bind_eq_ok {ε α β : Type} {x : Except ε α} {f : α → Except ε β} {b : β}
    (h : x.bind f = .ok b) : ∃ a, x = .ok a ∧ f a = .ok b := by
  cases x with
  | error e => cases h
  | ok a => exact ⟨a, rfl, h⟩

/-! ### Values -/

/-- After a bracket the elements of an array are read. -/
theorem strip_readValue_array (hs : skipSpace s = '[' :: r) :
    strip (readValue embeds (depth + 1) s) =
      (strip (readElements embeds depth true [] r)).map fun p ↦ (.array p.1, p.2) := by
  rw [readValue.eq_def]
  grind [strip, Except.map]

/-- After a brace the members of an object are read. -/
theorem strip_readValue_object (hs : skipSpace s = '{' :: r) :
    strip (readValue embeds (depth + 1) s) = strip (readMembers embeds depth true [] r) := by
  rw [readValue.eq_def]
  grind [strip, Except.map]

/-- What begins with neither is read as a scalar. -/
theorem strip_readValue_scalar (hs : skipSpace s = c :: r) (harray : c ≠ '[') (hobject : c ≠ '{') :
    strip (readValue embeds depth s) = readScalar (c :: r) := by
  rw [readValue.eq_def]
  grind [strip, Except.map]

theorem strip_readValue_nil (hs : skipSpace s = []) :
    strip (readValue embeds depth s) = .error ⟨.endInValue, [], 0⟩ := by
  rw [readValue.eq_def]
  grind [strip, Except.map, readScalar]

/-- Where no more nesting is allowed, a container is too deep. -/
theorem strip_readValue_zero (hs : skipSpace s = c :: r) (hc : c = '[' ∨ c = '{') :
    strip (readValue embeds 0 s) = .error (.peek .tooDeep (c :: r)) := by
  rw [readValue.eq_def]
  grind [strip, Except.map]

/-- What begins with a digit is read as a number. -/
theorem readScalar_unsigned {n : Number} {rest : List Char} (hs : IsUnsigned s)
    (h : readNumber false (s ++ rest) = .ok (n, rest)) :
    readScalar (s ++ rest) = .ok (.number n, rest) := by
  obtain ⟨c, r, rfl, hc⟩ := hs.exists_cons
  have hn : c ≠ 'n' := ne_of_isDigit hc (by decide)
  have ht : c ≠ 't' := ne_of_isDigit hc (by decide)
  have hf : c ≠ 'f' := ne_of_isDigit hc (by decide)
  have hquote : c ≠ '"' := ne_of_isDigit hc (by decide)
  have hminus : c ≠ '-' := ne_of_isDigit hc (by decide)
  rw [List.cons_append] at h ⊢
  rw [readScalar.eq_def]
  grind [Except.map]

/-! ### Elements -/

theorem strip_readElements_end {taken : List Json} (hs : skipSpace s = ']' :: r) :
    strip (readElements embeds depth first taken s) = .ok (taken.reverse, r) := by
  rw [readElements.eq_def]
  grind [strip, Except.map]

theorem strip_readElements_first {taken : List Json} (hs : skipSpace s = c :: r) (hc : c ≠ ']') :
    strip (readElements embeds depth true taken s) =
      (strip (readValue embeds depth (c :: r))).bind fun p ↦
        strip (readElements embeds depth false (p.1 :: taken) p.2) := by
  rw [readElements.eq_def]
  grind [strip, Except.map, Except.bind, Taken.widen]

/-- After a comma the next element is read, and then those after it. -/
theorem strip_readElements_next {taken : List Json} (hs : skipSpace s = ',' :: r)
    (hr : skipSpace r = c :: u) (hc : c ≠ ']') :
    strip (readElements embeds depth false taken s) =
      (strip (readValue embeds depth (c :: u))).bind fun p ↦
        strip (readElements embeds depth false (p.1 :: taken) p.2) := by
  rw [readElements.eq_def]
  grind [strip, Except.map, Except.bind, Taken.widen]

/-- An element is read, and the elements after it go on behind it. -/
theorem strip_readElements_item {taken : List Json} (h : Begins first s (c :: r)) (hc : c ≠ ']') :
    strip (readElements embeds depth first taken s) =
      (strip (readValue embeds depth (c :: r))).bind fun p ↦
        strip (readElements embeds depth false (p.1 :: taken) p.2) := by
  cases first with
  | true => exact strip_readElements_first h hc
  | false =>
    obtain ⟨u, hcomma, hu⟩ := h
    exact strip_readElements_next hcomma hu hc

/-- Elements are read only where there is one, or the end of the array. -/
theorem begins_of_readElements {taken : List Json} {p : List Json × List Char}
    (h : strip (readElements embeds depth first taken s) = .ok p) :
    (∃ r, skipSpace s = ']' :: r) ∨ ∃ c t, Begins first s (c :: t) ∧ c ≠ ']' := by
  rw [readElements.eq_def] at h
  cases first with
  | true =>
    show _ ∨ ∃ c t, skipSpace s = c :: t ∧ c ≠ ']'
    grind [strip, Except.map]
  | false =>
    have hnext : (∃ r, skipSpace s = ']' :: r) ∨
        ∃ u, skipSpace s = ',' :: u ∧ skipSpace u ≠ [] ∧ ∀ t, skipSpace u ≠ ']' :: t := by
      grind [strip, Except.map]
    refine hnext.imp_right ?_
    rintro ⟨u, hcomma, hne, hend⟩
    obtain ⟨c, t, hu⟩ := List.exists_cons_of_ne_nil hne
    refine ⟨c, t, ⟨u, hcomma, hu⟩, ?_⟩
    rintro rfl
    exact hend t hu

/-! ### Members -/

theorem strip_readMembers_end {taken : Members} (hs : skipSpace s = '}' :: r) :
    strip (readMembers embeds depth first taken s) = .ok (.object (collect taken.reverse), r) := by
  rw [readMembers.eq_def]
  grind [strip, Except.map]

theorem strip_readMembers_member {taken : Members} (h : Ahead first s r) :
    strip (readMembers embeds depth first taken s) =
      strip (readMember embeds depth first taken r) := by
  rw [readMembers.eq_def]
  cases first <;> grind [strip, Except.map, Taken.widen, Ahead]

/-- The value of a member is read after its name, unless the name says that it embeds a text. -/
theorem strip_readMember {taken : Members} {name : List Char}
    (hname : memberName s = .ok (name, r)) :
    strip (readMember embeds depth first taken s) =
      if embeds = true ∧ first = true ∧ name = embeddedName then strip (readEmbedded r)
      else (strip (readValue embeds depth r)).bind fun p ↦
        strip (readMembers embeds depth false ((String.ofList name, p.1) :: taken) p.2) := by
  rw [readMember.eq_def]
  grind [strip, Except.map, Except.bind, Taken.widen]

/-- A name is read with the colon behind it. -/
theorem memberName_append {cs name rest : List Char} (h : Spells cs name) (after : Blank) :
    memberName (name ++ '"' :: (after.chars ++ ':' :: rest)) = .ok (cs, rest) := by
  rw [memberName, stringTail_append h, List.reverse_nil, List.nil_append]
  simp only [skipSpace_colon]

/-- Members are read only where there is one, or the end of the object. -/
theorem ahead_of_readMembers {taken : Members} {p : Json × List Char}
    (h : strip (readMembers embeds depth first taken s) = .ok p) :
    (∃ r, skipSpace s = '}' :: r) ∨ ∃ r, Ahead first s r := by
  rw [readMembers.eq_def] at h
  cases first with
  | true =>
    show _ ∨ ∃ r, skipSpace s = '"' :: r
    grind [strip, Except.map]
  | false =>
    show _ ∨ ∃ r u, skipSpace s = ',' :: u ∧ skipSpace u = '"' :: r
    grind [strip, Except.map]

theorem Ahead.length_lt (h : Ahead first s r) : r.length < s.length := by
  cases first with
  | true => exact length_lt_of_skipSpace_eq_cons h
  | false =>
    obtain ⟨u, hcomma, hquote⟩ := h
    exact Nat.lt_trans (length_lt_of_skipSpace_eq_cons hquote)
      (length_lt_of_skipSpace_eq_cons hcomma)

/-- A member that is read has a name. -/
theorem memberName_of_readMember {taken : Members} {p : Json × List Char}
    (h : strip (readMember embeds depth first taken s) = .ok p) :
    ∃ name r, memberName s = .ok (name, r) := by
  rw [readMember.eq_def] at h
  grind [strip, Except.map]

/-! ### Embedded text -/

/-- Embedded text is a string, which is all that is left of its object, and what it is read as is
read from what the string says. -/
theorem exists_of_readEmbedded {v : Json} (h : strip (readEmbedded s) = .ok (v, r)) :
    ∃ text u w r', skipSpace s = '"' :: u ∧ stringTail [] u = .ok (text, w) ∧
      skipSpace w = '}' :: r ∧ strip (readValue true greatestDepth text) = .ok (v, r') := by
  rw [readEmbedded.eq_def] at h
  simp only at h
  split at h
  · rename_i u hu
    split at h
    · cases h
    · rename_i text w htext
      split at h
      · cases h
      · rename_i t hread
        split at h
        · split at h
          · cases h
          · rename_i hw
            injection h with h
            injection h with hv hr
            subst hv hr
            refine ⟨text, u, w, t.rest, hu, htext, hw, ?_⟩
            rw [hread]
            rfl
          · cases h
          · cases h
        · cases h
  · cases h

end LspClient.Json
