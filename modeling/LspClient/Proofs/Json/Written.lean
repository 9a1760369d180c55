import LspClient.Proofs.Json.Saying

/-!
# What written texts say

A value whose numbers are integers is written as a text that says it, whether in the compact form
(`says_print`) or in the indented one (`says_indent`). The two forms have the same tokens and differ
in the blanks between them, so what they share is stated for any blanks (`says_elements`,
`says_members`). A string is written so that it says its characters, and an integer so that it is
read as itself.
-/

namespace LspClient.Json

variable {v : Json} {rest : List Char}

/-! ### Numbers -/

/-- A significand below `UInt64.size` is taken whole. -/
theorem absorb_of_lt {n : Nat} {ds : List Char} (h : Nat.ofDigitChars 10 ds n < UInt64.size) :
    absorb n ds = (Nat.ofDigitChars 10 ds n, 0) := by
  induction ds generalizing n with
  | nil => rfl
  | cons d ds ih =>
    rw [Nat.ofDigitChars_cons] at h ⊢
    have hprefix : 10 * n + Decimal.digitValue d < UInt64.size :=
      Nat.lt_of_le_of_lt (Decimal.le_ofDigitChars _ ds) h
    rw [absorb, if_neg (by omega)]
    exact ih h

theorem absorb_digits {n : Nat} (h : n < UInt64.size) : absorb 0 (Decimal.digits n) = (n, 0) := by
  have hvalue : Nat.ofDigitChars 10 (Decimal.digits n) 0 = n := Nat.ofDigitChars_ten_toDigits
  rw [absorb_of_lt (by rwa [hvalue]), hvalue]

/-- An integer has neither fraction nor exponent. -/
theorem numberParts_integer {s : List Char} (h : IsInteger s) (hrest : Stops rest) :
    numberParts (s ++ rest) = .ok (⟨s, [], none⟩, rest) := by
  have hinteger := integerDigits_append h fun c hc ↦ (hrest c hc).1
  have hfraction := fractionDigits_append .none fun c hc ↦ ⟨(hrest c hc).1, (hrest c hc).2.1⟩
  obtain ⟨e, hnone, hexponents⟩ := exponentPart_append .none
  obtain rfl := hnone rfl
  have hexponent := hexponents rest hrest
  rw [List.nil_append] at hfraction hexponent
  rw [numberParts, hinteger]
  simp only [hfraction, hexponent]
  rfl

theorem readNumber_natural (n : UInt64) (hrest : Stops rest) :
    readNumber false (Decimal.digits n.toNat ++ rest) = .ok (.natural n, rest) := by
  have hvalue : NumberParts.value? false ⟨Decimal.digits n.toNat, [], none⟩ =
      some (.natural n) := by
    have habsorb := absorb_digits n.toNat_lt
    simp only [NumberParts.value?, habsorb]
    simp
  rw [readNumber, numberParts_integer (isInteger_digits _) hrest]
  simp only [hvalue]

theorem readNumber_negative (k : Fin 9223372036854775808) (hrest : Stops rest) :
    readNumber true (Decimal.digits (k + 1) ++ rest) = .ok (.negative k, rest) := by
  have hk := k.isLt
  have hvalue : NumberParts.value? true ⟨Decimal.digits (k + 1), [], none⟩ =
      some (.negative k) := by
    have habsorb := absorb_digits (n := k + 1) (by rw [UInt64.size]; omega)
    have hrange : 0 < k.val + 1 ∧ k.val + 1 ≤ 9223372036854775808 := by omega
    simp only [NumberParts.value?, habsorb]
    simp [hrange]
  rw [readNumber, numberParts_integer (isInteger_digits _) hrest]
  simp only [hvalue]

/-! ### Scalars -/

theorem says_bool (b : Bool) : Says .value (printBool b) (.bool b) := by
  cases b with
  | true => exact .trueWord
  | false => exact .falseWord

/-- An integer is written as a text that says it. -/
theorem says_number {n : Number} (h : IsIntegral (.number n)) :
    Says .value n.print (.number n) := by
  cases n with
  | natural n =>
    have hread := readNumber_natural n stops_nil
    rw [List.append_nil] at hread
    exact .natural (isInteger_digits n.toNat).isUnsigned hread
  | negative k =>
    have hread := readNumber_negative k stops_nil
    rw [List.append_nil] at hread
    exact .negative (isInteger_digits (k + 1)).isUnsigned hread
  | real x => cases h

/-- A string is written as a text that says it. -/
theorem says_string (s : String) : Says .value (printString s) (.string s) := by
  have hsays := Says.string (spells_escape s.toList)
  rwa [String.ofList_toList] at hsays

/-! ### Containers -/

/-- A member whose name is written, with blanks before the name and before the value. -/
def writtenMember (before gap : Blank) (name : String) (value : List Char) : List Char :=
  memberText before (name.toList.flatMap escapeChar) .none gap value

theorem writtenMember_eq (before gap : Blank) (name : String) (value : List Char) :
    writtenMember before gap name value =
      before.chars ++ (printString name ++ ':' :: (gap.chars ++ value)) := by
  rw [printString_append]
  rfl

/-- Elements that are each written as what says them say the array, whatever blanks are before each
of them and behind the last. -/
theorem says_elements {f : Json → List Char} {xs : List Json} (h : ∀ x ∈ xs, Says .value (f x) x)
    (before after : Blank) {s : List Char} (hs : Says .value s v) :
    Says .elements (before.chars ++ (s ++
      (xs.flatMap (fun x ↦ ',' :: (before.chars ++ f x)) ++ after.chars))) (.array (v :: xs)) := by
  induction xs generalizing s v with
  | nil => exact .element before hs after
  | cons x xs ih =>
    obtain ⟨hx, hxs⟩ := List.forall_mem_cons.1 h
    rw [List.flatMap_cons, List.append_assoc, List.cons_append, List.append_assoc]
    exact .elements before hs .none (ih hxs hx)

/-- The same for the members of an object. -/
theorem says_members {f : Json → List Char} {ms : Members}
    (h : ∀ m ∈ ms, Says .value (f m.2) m.2) (before gap after : Blank) (name : String)
    {s : List Char} (hs : Says .value s v) :
    Says .members (writtenMember before gap name s ++
      (ms.flatMap (fun m ↦ ',' :: writtenMember before gap m.1 (f m.2)) ++ after.chars))
      (.object ((name, v) :: ms)) := by
  induction ms generalizing name s v with
  | nil =>
    have hsays := Says.member before (spells_escape name.toList) .none gap hs after
    rwa [String.ofList_toList] at hsays
  | cons m ms ih =>
    obtain ⟨hm, hms⟩ := List.forall_mem_cons.1 h
    have hsays := Says.members before (spells_escape name.toList) .none gap hs .none
      (ih hms m.1 hm)
    rw [String.ofList_toList] at hsays
    rw [List.flatMap_cons, List.append_assoc]
    exact hsays

/-! ### The compact form -/

theorem printElements_eq (xs : List Json) :
    printElements xs = xs.flatMap (fun x ↦ ',' :: (Blank.none.chars ++ print x)) ++ [']'] := by
  induction xs with
  | nil => rfl
  | cons x xs ih =>
    rw [printElements, ih, List.flatMap_cons, List.append_assoc]
    rfl

theorem printMembers_eq (ms : Members) :
    printMembers ms =
      ms.flatMap (fun m ↦ ',' :: writtenMember .none .none m.1 (print m.2)) ++ ['}'] := by
  induction ms with
  | nil => rfl
  | cons m ms ih =>
    rw [printMembers, ih, List.flatMap_cons, writtenMember_eq]
    simp only [Blank.none, List.nil_append, List.append_assoc, List.cons_append]

/-- **The compact text of a value says the value**, if its numbers are integers. -/
theorem says_print (h : v.IsIntegral) : Says .value (print v) v := by
  induction v using Json.induction with
  | hnull => exact .nullWord
  | hbool b => exact says_bool b
  | hnumber n => exact says_number h
  | hstring s => exact says_string s
  | harray xs ih =>
    obtain ⟨-, hxs⟩ := all_array.1 h
    cases xs with
    | nil => exact .noElements .none
    | cons x xs =>
      obtain ⟨hx, hxs⟩ := List.forall_mem_cons.1 fun y hy ↦ ih y hy (hxs y hy)
      have hsays := Says.array (says_elements hxs .none .none hx)
      rw [print, printElements_eq]
      simpa only [Blank.none, List.nil_append, List.append_nil, List.append_assoc] using hsays
  | hobject ms ih =>
    obtain ⟨-, hms⟩ := all_object.1 h
    cases ms with
    | nil => exact .noMembers .none
    | cons m ms =>
      obtain ⟨hm, hms⟩ := List.forall_mem_cons.1 fun m hm ↦ ih m hm (hms m hm)
      have hsays := Says.object (says_members hms .none .none .none m.1 hm)
      rw [writtenMember_eq] at hsays
      rw [print, printMembers_eq]
      simpa only [Blank.none, List.nil_append, List.append_nil, List.append_assoc,
        List.cons_append] using hsays

/-- A value whose numbers are integers is written as the grammar wants it. -/
theorem derives_print (h : v.IsIntegral) : Derives .value (print v) :=
  (says_print h).derives

/-- What is written for a value is a text of that value. -/
theorem isTextOf_text (h : v.IsIntegral) : IsTextOf v.text.toList v := by
  refine ⟨.none, print v, .none, ?_, says_print h⟩
  rw [text, String.toList_ofList]
  exact (List.append_nil _).symm

/-- A member as it is written. -/
theorem printMember_eq (name : String) (s : List Char) :
    printString name ++ ':' :: s =
      memberText .none (name.toList.flatMap escapeChar) .none .none s :=
  printString_append name _

/-! ### The indented form -/

theorem isSpace_of_mem_newline {depth : Nat} : ∀ c ∈ newline depth, isSpace c = true := by
  refine List.forall_mem_cons.2 ⟨by decide, fun c hc ↦ ?_⟩
  rw [List.eq_of_mem_replicate hc]
  decide

/-- The blanks that begin a line at the given depth. -/
def lineBreak (depth : Nat) : Blank where
  chars := newline depth
  isSpace := isSpace_of_mem_newline

/-- The blank between the name of a member and its value. -/
def space : Blank where
  chars := [' ']
  isSpace := List.forall_mem_singleton.2 (by decide)

theorem indentElements_eq (depth : Nat) (xs : List Json) :
    indentElements depth xs =
      xs.flatMap (fun x ↦ ',' :: ((lineBreak (depth + 1)).chars ++ indent (depth + 1) x)) ++
        (newline depth ++ [']']) := by
  induction xs with
  | nil => rfl
  | cons x xs ih =>
    rw [indentElements, ih, List.flatMap_cons]
    simp only [lineBreak, List.append_assoc, List.cons_append]

theorem indentMembers_eq (depth : Nat) (ms : Members) :
    indentMembers depth ms =
      ms.flatMap (fun m ↦
        ',' :: writtenMember (lineBreak (depth + 1)) space m.1 (indent (depth + 1) m.2)) ++
        (newline depth ++ ['}']) := by
  induction ms with
  | nil => rfl
  | cons m ms ih =>
    rw [indentMembers, ih, List.flatMap_cons, writtenMember_eq]
    simp only [lineBreak, space, List.nil_append, List.append_assoc, List.cons_append]

/-- **The indented text of a value says the value**, if its numbers are integers, at any depth. -/
theorem says_indent (h : v.IsIntegral) (depth : Nat) : Says .value (indent depth v) v := by
  induction v using Json.induction generalizing depth with
  | hnull => exact .nullWord
  | hbool b => exact says_bool b
  | hnumber n => exact says_number h
  | hstring s => exact says_string s
  | harray xs ih =>
    obtain ⟨-, hxs⟩ := all_array.1 h
    cases xs with
    | nil => exact .noElements .none
    | cons x xs =>
      obtain ⟨hx, hxs⟩ := List.forall_mem_cons.1 fun y hy ↦ ih y hy (hxs y hy) (depth + 1)
      have hsays := Says.array (says_elements hxs (lineBreak (depth + 1)) (lineBreak depth) hx)
      rw [indent, indentElements_eq]
      simpa only [lineBreak, List.append_assoc] using hsays
  | hobject ms ih =>
    obtain ⟨-, hms⟩ := all_object.1 h
    cases ms with
    | nil => exact .noMembers .none
    | cons m ms =>
      obtain ⟨hm, hms⟩ := List.forall_mem_cons.1 fun m hm ↦ ih m hm (hms m hm) (depth + 1)
      have hsays :=
        Says.object (says_members hms (lineBreak (depth + 1)) space (lineBreak depth) m.1 hm)
      rw [writtenMember_eq] at hsays
      rw [indent, indentMembers_eq]
      simpa only [lineBreak, space, List.nil_append, List.append_assoc,
        List.cons_append] using hsays

/-- What is printed for a value is a text of that value. -/
theorem isTextOf_indentedText (h : v.IsIntegral) : IsTextOf v.indentedText.toList v := by
  refine ⟨.none, indent 0 v, .none, ?_, says_indent h 0⟩
  rw [indentedText, String.toList_ofList]
  exact (List.append_nil _).symm

end LspClient.Json
