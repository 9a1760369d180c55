import LspClient.Json.Printer
import LspClient.Proofs.Decimal.Whole
import LspClient.Proofs.Text.Blank

/-!
# What printed text is made of

A printed value has no character below U+0020 (`le_of_mem_print`): the printer of strings escapes
them, and everything else is written with letters, digits and punctuation. In particular it has no
line end, so a printed value is always one line. An object is written between braces
(`exists_print_object_eq`), with no blank before or after it.
-/

namespace LspClient

/-- A digit is no control character. -/
theorem le_of_isDigit {c : Char} (h : c.isDigit = true) : 0x20 ≤ c.toNat := by
  have := (Char.isDigit_iff_toNat.1 h).1
  have hzero : '0'.toNat = 48 := rfl
  omega

theorem le_of_mem_decimalDigits {n : Nat} {c : Char} (h : c ∈ Decimal.digits n) :
    0x20 ≤ c.toNat :=
  le_of_isDigit (Decimal.isDigit_of_mem_digits h)

/-- What holds of the digits, of zero, of the point and of the marks of a style holds of every
character of a number in that style. -/
theorem DecimalStyle.render_forall {P : Char → Prop} {style : DecimalStyle} {ds : List Char}
    (hds : ∀ c ∈ ds, P c) (hdigits : ∀ n, ∀ c ∈ Decimal.digits n, P c) (hpoint : P '.')
    (hwhole : ∀ c ∈ style.wholeMark, P c) (hexp : ∀ c ∈ style.exponentMark, P c)
    (hneg : ∀ c ∈ style.negativeExponentMark, P c) (p : Int) :
    ∀ c ∈ style.render ds p, P c := by
  have hzero : P '0' := hdigits 0 '0' List.mem_cons_self
  have htake : ∀ n, ∀ c ∈ ds.take n, P c := fun n c hc ↦ hds c (List.mem_of_mem_take hc)
  have hdrop : ∀ n, ∀ c ∈ ds.drop n, P c := fun n c hc ↦ hds c (List.mem_of_mem_drop hc)
  have hzeros : ∀ n, ∀ c ∈ List.replicate n '0', P c := by
    intro n c hc
    rwa [List.eq_of_mem_replicate hc]
  intro c hc
  unfold DecimalStyle.render at hc
  simp only at hc
  split at hc
  · split at hc
    · rcases List.mem_append.1 hc with hc | hc
      · rcases List.mem_append.1 hc with hc | hc
        · exact hds c hc
        · exact hzeros _ c hc
      · exact hwhole c hc
    · split at hc
      · rcases List.mem_append.1 hc with hc | hc
        · exact htake _ c hc
        · rcases List.mem_cons.1 hc with rfl | hc
          · exact hpoint
          · exact hdrop _ c hc
      · rcases List.mem_cons.1 hc with rfl | hc
        · exact hzero
        · rcases List.mem_cons.1 hc with rfl | hc
          · exact hpoint
          · rcases List.mem_append.1 hc with hc | hc
            · exact hzeros _ c hc
            · exact hds c hc
  · rcases List.mem_append.1 hc with hc | hc
    · rcases List.mem_append.1 hc with hc | hc
      · split at hc
        · exact hds c hc
        · rcases List.mem_append.1 hc with hc | hc
          · exact htake _ c hc
          · rcases List.mem_cons.1 hc with rfl | hc
            · exact hpoint
            · exact hdrop _ c hc
      · split at hc
        · exact hneg c hc
        · exact hexp c hc
    · exact hdigits _ c hc

namespace Json

/-- A float is written without control characters. -/
theorem le_of_mem_renderBinary64 {x : Binary64} {c : Char} (h : c ∈ decimals.renderBinary64 x) :
    0x20 ≤ c.toNat := by
  have hbody : ∀ c ∈ (if x.rank.val = 0 then '0' :: decimals.wholeMark
      else decimals.render (Decimal.digits (Binary64.shortest x.rank).1)
        (Binary64.shortest x.rank).2), 0x20 ≤ c.toNat := by
    split
    · exact Text.forall_mem_of_all rfl
    · exact DecimalStyle.render_forall (fun c ↦ le_of_mem_decimalDigits)
        (fun n c ↦ le_of_mem_decimalDigits) (by decide) (Text.forall_mem_of_all rfl)
        (Text.forall_mem_of_all rfl) (Text.forall_mem_of_all rfl) _
  unfold DecimalStyle.renderBinary64 at h
  simp only at h
  split at h
  · rcases List.mem_cons.1 h with rfl | h
    · decide
    · exact hbody c h
  · exact hbody c h

theorem Number.le_of_mem_print {n : Number} {c : Char} (h : c ∈ n.print) : 0x20 ≤ c.toNat := by
  cases n with
  | natural n => exact le_of_mem_decimalDigits h
  | negative k =>
    rcases List.mem_cons.1 h with rfl | h
    · decide
    · exact le_of_mem_decimalDigits h
  | real x => exact le_of_mem_renderBinary64 h

/-- Characters below U+0020 are escaped, and an escape has none. -/
theorem le_of_mem_escapeChar (c : Char) : ∀ d ∈ escapeChar c, 0x20 ≤ d.toNat := by
  have hhex : ∀ n, n < 16 → 0x20 ≤ (Text.hexDigit n).toNat := by decide
  unfold escapeChar
  split
  · exact Text.forall_mem_of_all rfl
  split
  · exact Text.forall_mem_of_all rfl
  split
  case isTrue hc =>
    intro d hd
    rwa [List.mem_singleton.1 hd]
  case isFalse hc =>
  iterate 5
    split
    · exact Text.forall_mem_of_all rfl
  -- only the two digits depend on the character
  intro d hd
  simp only [List.mem_cons, List.not_mem_nil, or_false] at hd
  rcases hd with rfl | rfl | rfl | rfl | rfl | rfl
  iterate 4 decide
  · exact hhex _ (by omega)
  · exact hhex _ (by omega)

theorem le_of_mem_printString {s : String} {c : Char} (h : c ∈ printString s) :
    0x20 ≤ c.toNat := by
  rcases List.mem_cons.1 h with rfl | h
  · decide
  rcases List.mem_append.1 h with h | h
  · obtain ⟨d, -, hd⟩ := List.mem_flatMap.1 h
    exact le_of_mem_escapeChar d c hd
  · rw [List.mem_singleton.1 h]
    decide

mutual

/-- A printed value has no control character. -/
theorem le_of_mem_print : ∀ (v : Json), ∀ c ∈ print v, 0x20 ≤ c.toNat
  | .null => Text.forall_mem_of_all rfl
  | .bool true => Text.forall_mem_of_all rfl
  | .bool false => Text.forall_mem_of_all rfl
  | .number n => fun c h ↦ Number.le_of_mem_print h
  | .string s => fun c h ↦ le_of_mem_printString h
  | .array [] => Text.forall_mem_of_all rfl
  | .array (x :: xs) => by
    intro c h
    rw [print] at h
    rcases List.mem_cons.1 h with rfl | h
    · decide
    rcases List.mem_append.1 h with h | h
    · exact le_of_mem_print x c h
    · exact le_of_mem_printElements xs c h
  | .object [] => Text.forall_mem_of_all rfl
  | .object ((name, v) :: ms) => by
    intro c h
    rw [print] at h
    rcases List.mem_cons.1 h with rfl | h
    · decide
    rcases List.mem_append.1 h with h | h
    · exact le_of_mem_printString h
    rcases List.mem_cons.1 h with rfl | h
    · decide
    rcases List.mem_append.1 h with h | h
    · exact le_of_mem_print v c h
    · exact le_of_mem_printMembers ms c h

theorem le_of_mem_printElements : ∀ (xs : List Json), ∀ c ∈ printElements xs, 0x20 ≤ c.toNat
  | [] => Text.forall_mem_of_all rfl
  | x :: xs => by
    intro c h
    rw [printElements] at h
    rcases List.mem_cons.1 h with rfl | h
    · decide
    rcases List.mem_append.1 h with h | h
    · exact le_of_mem_print x c h
    · exact le_of_mem_printElements xs c h

theorem le_of_mem_printMembers : ∀ (ms : Members), ∀ c ∈ printMembers ms, 0x20 ≤ c.toNat
  | [] => Text.forall_mem_of_all rfl
  | (name, v) :: ms => by
    intro c h
    rw [printMembers] at h
    rcases List.mem_cons.1 h with rfl | h
    · decide
    rcases List.mem_append.1 h with h | h
    · exact le_of_mem_printString h
    rcases List.mem_cons.1 h with rfl | h
    · decide
    rcases List.mem_append.1 h with h | h
    · exact le_of_mem_print v c h
    · exact le_of_mem_printMembers ms c h

end

/-- The members after the first end with the brace that closes the object. -/
theorem exists_printMembers_eq (ms : Members) : ∃ s, printMembers ms = s ++ ['}'] := by
  induction ms with
  | nil => exact ⟨[], rfl⟩
  | cons m ms ih =>
    obtain ⟨name, v⟩ := m
    obtain ⟨s, hs⟩ := ih
    refine ⟨',' :: (printString name ++ ':' :: (print v ++ s)), ?_⟩
    rw [printMembers, hs]
    simp only [List.cons_append, List.append_assoc]

/-- An object is written between braces. -/
theorem exists_print_object_eq (ms : Members) : ∃ s, print (.object ms) = '{' :: (s ++ ['}']) := by
  cases ms with
  | nil => exact ⟨[], rfl⟩
  | cons m ms =>
    obtain ⟨name, v⟩ := m
    obtain ⟨s, hs⟩ := exists_printMembers_eq ms
    refine ⟨printString name ++ ':' :: (print v ++ s), ?_⟩
    rw [print, hs]
    simp only [List.append_assoc, List.cons_append]

end Json

end LspClient
