import LspClient.Proofs.Json.Grammar
import LspClient.Proofs.Text.Blank

/-!
# Scanning tokens

Each scanner passes over a token of the grammar and stops right behind it, whatever follows. Only a
number needs to be followed by something that does not continue it (`Stops`), and everything that
follows a value inside a text is of that kind.
-/

namespace LspClient.Json

/-! ### Blanks and words -/

/-- A blank is skipped. -/
theorem skipSpace_append (b : Blank) (s : List Char) : skipSpace (b.chars ++ s) = skipSpace s :=
  List.dropWhile_append_of_pos b.isSpace

theorem skipSpace_cons {c : Char} (h : isSpace c = false) (s : List Char) :
    skipSpace (c :: s) = c :: s :=
  List.dropWhile_cons_of_neg (by rw [h]; exact Bool.false_ne_true)

theorem skipSpace_idem (s : List Char) : skipSpace (skipSpace s) = skipSpace s := by
  induction s with
  | nil => rfl
  | cons c s ih =>
    cases h : isSpace c with
    | true =>
      have hdrop : skipSpace (c :: s) = skipSpace s := List.dropWhile_cons_of_pos h
      rw [hdrop, ih]
    | false => rw [skipSpace_cons h, skipSpace_cons h]

/-- Blanks are skipped up to a mark. -/
theorem skipSpace_mark {c : Char} (h : isSpace c = false) (b : Blank) (rest : List Char) :
    skipSpace (b.chars ++ c :: rest) = c :: rest := by
  rw [skipSpace_append, skipSpace_cons h]

theorem skipSpace_colon (b : Blank) (rest : List Char) :
    skipSpace (b.chars ++ ':' :: rest) = ':' :: rest :=
  skipSpace_mark (by decide) b rest

/-- A word is read where it stands. -/
theorem word_append (w rest : List Char) : word w (w ++ rest) = .ok rest := by
  induction w with
  | nil => rfl
  | cons c w ih =>
    rw [List.cons_append, word, if_pos rfl]
    exact ih

/-! ### Numbers -/

/-- A text that does not continue a number. -/
def Stops (s : List Char) : Prop :=
  ∀ c ∈ s.head?, c.isDigit = false ∧ c ≠ '.' ∧ c ≠ 'e' ∧ c ≠ 'E'

theorem stops_cons_of_isSpace {c : Char} (h : isSpace c = true) (s : List Char) :
    Stops (c :: s) := by
  intro d hd
  obtain rfl : c = d := Option.some.inj hd
  simp only [isSpace, Bool.or_eq_true, decide_eq_true_eq] at h
  rcases h with ((rfl | rfl) | rfl) | rfl <;> decide

/-- The end of a container, a comma and blanks do not continue a number. -/
theorem stops_of_blank (b : Blank) {c : Char} (hc : c ∈ [',', ']', '}']) (rest : List Char) :
    Stops (b.chars ++ c :: rest) := by
  obtain ⟨s, hs⟩ := b
  cases s with
  | nil =>
    intro d hd
    obtain rfl : c = d := Option.some.inj hd
    have hall : ∀ c ∈ [',', ']', '}'], c.isDigit = false ∧ c ≠ '.' ∧ c ≠ 'e' ∧ c ≠ 'E' :=
      Text.forall_mem_of_all rfl
    exact hall c hc
  | cons d s => exact stops_cons_of_isSpace (hs d List.mem_cons_self) _

/-- Neither do blanks up to the end of the text. -/
theorem stops_of_skipSpace_eq_nil {s : List Char} (h : skipSpace s = []) : Stops s := by
  cases s with
  | nil => exact fun _ hc ↦ nomatch hc
  | cons c s =>
    cases hc : isSpace c with
    | true => exact stops_cons_of_isSpace hc s
    | false =>
      rw [skipSpace_cons hc] at h
      cases h

/-- Digits end where no digit follows. -/
theorem leadingDigits_append {s rest : List Char} (h : ∀ c ∈ s, c.isDigit = true)
    (hrest : ∀ c ∈ rest.head?, c.isDigit = false) :
    leadingDigits (s ++ rest) = s ∧ afterDigits (s ++ rest) = rest := by
  have hnone : leadingDigits rest = [] ∧ afterDigits rest = rest := by
    cases rest with
    | nil => exact ⟨rfl, rfl⟩
    | cons c rest =>
      have hc : ¬ c.isDigit = true := by rw [hrest c rfl]; exact Bool.false_ne_true
      exact ⟨List.takeWhile_cons_of_neg hc, List.dropWhile_cons_of_neg hc⟩
  constructor
  · rw [leadingDigits, List.takeWhile_append_of_pos h]
    exact (congrArg (s ++ ·) hnone.1).trans (List.append_nil s)
  · rw [afterDigits, List.dropWhile_append_of_pos h]
    exact hnone.2

/-- The digits of an integer are read to their end. -/
theorem integerDigits_append {s rest : List Char} (h : IsInteger s)
    (hrest : ∀ c ∈ rest.head?, c.isDigit = false) :
    integerDigits (s ++ rest) = .ok (s, rest) := by
  cases h with
  | zero =>
    have hdigits := (leadingDigits_append (List.forall_mem_nil _) hrest).1
    rw [List.nil_append] at hdigits
    show integerDigits ('0' :: rest) = _
    rw [integerDigits, hdigits]
    rfl
  | @digits c s hne hall =>
    obtain ⟨hc, hs⟩ := List.forall_mem_cons.1 hall
    obtain ⟨hlead, hafter⟩ := leadingDigits_append hs hrest
    rw [List.cons_append, integerDigits.eq_def]
    split
    · contradiction
    · rename_i heq
      injection heq with hzero
      exact absurd hzero hne
    · rename_i heq
      injection heq with hcons htail
      subst hcons htail
      rw [if_pos hc, hlead, hafter]

/-- The digits of a fraction are read to their end. -/
theorem fractionDigits_append {s rest : List Char} (h : IsFraction s)
    (hrest : ∀ c ∈ rest.head?, c.isDigit = false ∧ c ≠ '.') :
    fractionDigits (s ++ rest) = .ok (s.drop 1, rest) := by
  cases h with
  | none =>
    rw [List.nil_append, fractionDigits.eq_def]
    split
    · exact absurd rfl (hrest '.' rfl).2
    · rfl
  | @some s hs =>
    obtain ⟨hlead, hafter⟩ := leadingDigits_append hs.2 fun c hc ↦ (hrest c hc).1
    have hne : s.isEmpty = false := List.isEmpty_eq_false_iff.2 hs.1
    rw [List.cons_append, fractionDigits.eq_def]
    simp only [hlead, hafter, hne, Bool.false_eq_true, if_false]
    rfl

/-- The sign of an exponent is taken off its digits. -/
theorem exponentSign_append {sign s : List Char} (hsign : sign ∈ [[], ['+'], ['-']])
    (hs : IsDigits s) (rest : List Char) :
    exponentSign (sign ++ (s ++ rest)) = ((exponentSign sign).1, s ++ rest) := by
  obtain ⟨hne, hdigit⟩ := hs
  obtain ⟨c, t, rfl⟩ := List.exists_cons_of_ne_nil hne
  simp only [List.mem_cons, List.not_mem_nil, or_false] at hsign
  rcases hsign with rfl | rfl | rfl
  · have hc := hdigit c List.mem_cons_self
    rw [List.nil_append, List.cons_append, exponentSign.eq_def]
    split
    · rename_i heq
      injection heq with hminus
      rw [hminus] at hc
      exact absurd hc (by decide)
    · rename_i heq
      injection heq with hplus
      rw [hplus] at hc
      exact absurd hc (by decide)
    · rfl
  · rfl
  · rfl

/-- An exponent is read to its end, and there is none only where nothing is written. -/
theorem exponentPart_append {s : List Char} (h : IsExponent s) :
    ∃ e, (s = [] → e = none) ∧
      ∀ rest, Stops rest → exponentPart (s ++ rest) = .ok (e, rest) := by
  cases h with
  | none =>
    refine ⟨none, fun _ ↦ rfl, ?_⟩
    intro rest hrest
    cases rest with
    | nil => rfl
    | cons c rest =>
      obtain ⟨-, -, he, hE⟩ := hrest c rfl
      rw [List.nil_append, exponentPart, if_neg (not_or.2 ⟨he, hE⟩)]
  | @some e sign s he hsign hs =>
    refine ⟨some ⟨(exponentSign sign).1, s⟩, ?_, ?_⟩
    · intro hnil
      cases hnil
    · intro rest hrest
      have hsplit := exponentSign_append hsign hs rest
      obtain ⟨hlead, hafter⟩ := leadingDigits_append hs.2 fun c hc ↦ (hrest c hc).1
      have hne : s.isEmpty = false := List.isEmpty_eq_false_iff.2 hs.1
      rw [List.cons_append, List.append_assoc, exponentPart, if_pos he]
      simp only [hsplit, hlead, hafter, hne, Bool.false_eq_true, if_false]

/-- A number is taken apart up to where it stops, and the same way whatever follows. -/
theorem numberParts_append {s : List Char} (h : IsUnsigned s) :
    ∃ p, ∀ rest, Stops rest → numberParts (s ++ rest) = .ok (p, rest) := by
  cases h with
  | @mk integer fraction exponent hinteger hfraction hexponent =>
    obtain ⟨e, -, hexponents⟩ := exponentPart_append hexponent
    refine ⟨⟨integer, fraction.drop 1, e⟩, ?_⟩
    intro rest hrest
    have hafter : ∀ c ∈ (exponent ++ rest).head?, c.isDigit = false ∧ c ≠ '.' := by
      cases hexponent with
      | none => exact fun c hc ↦ ⟨(hrest c hc).1, (hrest c hc).2.1⟩
      | @some e sign s he hsign hs =>
        intro c hc
        obtain rfl : e = c := Option.some.inj hc
        rcases he with rfl | rfl <;> decide
    have hbehind : ∀ c ∈ (fraction ++ (exponent ++ rest)).head?, c.isDigit = false := by
      cases hfraction with
      | none => exact fun c hc ↦ (hafter c hc).1
      | some hs =>
        intro c hc
        obtain rfl : '.' = c := Option.some.inj hc
        decide
    rw [List.append_assoc, List.append_assoc, numberParts]
    simp only [integerDigits_append hinteger hbehind, fractionDigits_append hfraction hafter,
      hexponents rest hrest]

/-- A number without its sign is skipped to its end. -/
theorem skipNumber_append {s rest : List Char} (h : IsUnsigned s) (hrest : Stops rest) :
    skipNumber (s ++ rest) = .ok rest := by
  obtain ⟨p, hp⟩ := numberParts_append h
  rw [skipNumber, hp rest hrest]

theorem stops_nil : Stops [] := by
  intro c hc
  cases hc

/-- A number is kept as what it is alone, whatever follows it. -/
theorem readNumber_append {negative : Bool} {n : Number} {s rest : List Char} (h : IsUnsigned s)
    (hn : readNumber negative s = .ok (n, [])) (hrest : Stops rest) :
    readNumber negative (s ++ rest) = .ok (n, rest) := by
  obtain ⟨p, hp⟩ := numberParts_append h
  have halone := hp [] stops_nil
  rw [List.append_nil] at halone
  rw [readNumber, halone] at hn
  rw [readNumber, hp rest hrest]
  cases hvalue : p.value? negative with
  | none =>
    simp only [hvalue] at hn
    cases hn
  | some m =>
    simp only [hvalue] at hn ⊢
    cases hn
    rfl

/-! ### Strings -/

/-- Four hexadecimal digits are read as their number. -/
theorem hexEscape_append {x : List Char} {n : Nat} (h : IsHex x n) (rest : List Char) :
    hexEscape (x ++ rest) = .ok (n, rest) := by
  obtain ⟨ha, hb, hc, hd⟩ := h
  show hexEscape (_ :: _ :: _ :: _ :: rest) = _
  rw [hexEscape]
  simp only [ha, hb, hc, hd]

theorem skipEscape_short {e : Char × Char} (he : e ∈ shortEscapes) (s : List Char) :
    skipEscape (e.1 :: s) = .ok s := by
  simp only [shortEscapes, List.mem_cons, List.not_mem_nil, or_false] at he
  rcases he with rfl | rfl | rfl | rfl | rfl | rfl | rfl | rfl <;> rfl

theorem escape_short {e : Char × Char} (he : e ∈ shortEscapes) (s : List Char) :
    escape (e.1 :: s) = .ok (e.2, s) := by
  simp only [shortEscapes, List.mem_cons, List.not_mem_nil, or_false] at he
  rcases he with rfl | rfl | rfl | rfl | rfl | rfl | rfl | rfl <;> rfl

theorem escape_unicode {x : List Char} {n : Nat} (hx : IsHex x n) (hn : n < 0xD800 ∨ 0xDFFF < n)
    (s : List Char) : escape ('u' :: (x ++ s)) = .ok (.ofNat n, s) := by
  rw [escape, unicodeEscape, hexEscape_append hx]
  show (if 0xDC00 ≤ n ∧ n ≤ 0xDFFF then _ else _) = _
  rw [if_neg (by omega), if_pos (by omega)]

/-- Two escapes that make a pair are read as one character. -/
theorem escape_pair {x y : List Char} {high low : Nat} (hx : IsHex x high) (hy : IsHex y low)
    (hhigh : 0xD800 ≤ high ∧ high ≤ 0xDBFF) (hlow : 0xDC00 ≤ low ∧ low ≤ 0xDFFF) (s : List Char) :
    escape ('u' :: (x ++ '\\' :: 'u' :: (y ++ s))) =
      .ok (.ofNat (0x10000 + (high - 0xD800) * 0x400 + (low - 0xDC00)), s) := by
  rw [escape, unicodeEscape, hexEscape_append hx]
  show (if 0xDC00 ≤ high ∧ high ≤ 0xDFFF then _ else _) = _
  rw [if_neg (by omega), if_neg (by omega)]
  simp only [hexEscape_append hy]
  rw [if_neg (by omega)]

/-- The skipping reader passes over a string. -/
theorem skipString_append {s : List Char} (h : IsLiteral s) (rest : List Char) :
    skipString (s ++ '"' :: rest) = .ok rest := by
  induction h with
  | nil => rw [List.nil_append, skipString]
  | @char c s hc h ih =>
    obtain ⟨hquote, hback, hctl⟩ := hc
    rw [List.cons_append, skipString.eq_def]
    split
    · contradiction
    · rename_i heq
      injection heq with heq
      exact absurd heq hquote
    · rename_i heq
      injection heq with heq
      exact absurd heq hback
    · rename_i heq
      injection heq with hcons htail
      subst hcons htail
      rw [if_neg (by omega)]
      exact ih
  | @escape e s he h ih =>
    rw [List.cons_append, List.cons_append, skipString]
    split
    · rename_i herr
      rw [skipEscape_short he] at herr
      cases herr
    · rename_i hok
      rw [skipEscape_short he] at hok
      injection hok with hok
      subst hok
      exact ih
  | @unicode n x s hx h ih =>
    have hskip : skipEscape ('u' :: (x ++ (s ++ '"' :: rest))) = .ok (s ++ '"' :: rest) := by
      rw [skipEscape, hexEscape_append hx]
      rfl
    rw [List.cons_append, List.cons_append, List.append_assoc, skipString]
    split
    · rename_i herr
      rw [hskip] at herr
      cases herr
    · rename_i hok
      rw [hskip] at hok
      injection hok with hok
      subst hok
      exact ih

/-- An escape adds its character to what a string says. -/
theorem stringTail_escape {c : Char} {s r : List Char} (h : escape s = .ok (c, r))
    (taken : List Char) : stringTail taken ('\\' :: s) = stringTail (c :: taken) r := by
  rw [stringTail]
  split
  · rename_i herr
    rw [h] at herr
    cases herr
  · rename_i hok
    rw [h] at hok
    injection hok with hok
    injection hok with hc hr
    subst hc hr
    rfl

/-- The keeping reader takes what a string says. -/
theorem stringTail_append {cs s : List Char} (h : Spells cs s) (taken rest : List Char) :
    stringTail taken (s ++ '"' :: rest) = .ok (taken.reverse ++ cs, rest) := by
  induction h generalizing taken with
  | nil => rw [List.nil_append, stringTail, List.append_nil]
  | @char c cs s hc h ih =>
    obtain ⟨hquote, hback, hctl⟩ := hc
    have hnext := ih (c :: taken)
    rw [List.reverse_cons, List.append_assoc, List.singleton_append] at hnext
    rw [List.cons_append, stringTail.eq_def]
    split
    · contradiction
    · rename_i heq
      injection heq with heq
      exact absurd heq hquote
    · rename_i heq
      injection heq with heq
      exact absurd heq hback
    · rename_i heq
      injection heq with hcons htail
      subst hcons htail
      rw [if_neg (by omega)]
      exact hnext
  | @escape e cs s he h ih =>
    rw [List.cons_append, List.cons_append, stringTail_escape (escape_short he _), ih,
      List.reverse_cons, List.append_assoc, List.singleton_append]
  | @unicode n x cs s hx hn h ih =>
    rw [List.cons_append, List.cons_append, List.append_assoc,
      stringTail_escape (escape_unicode hx hn _), ih, List.reverse_cons, List.append_assoc,
      List.singleton_append]
  | @pair high low x y cs s hx hy hhigh hlow h ih =>
    rw [List.cons_append, List.cons_append, List.append_assoc, List.cons_append, List.cons_append,
      List.append_assoc, stringTail_escape (escape_pair hx hy hhigh hlow _), ih, List.reverse_cons,
      List.append_assoc, List.singleton_append]

/-! ### Readings -/

/-- A reader takes a value and leaves `rest`. -/
def Reads {α : Type} {s : List Char} (x : Reading α s) (v : α) (rest : List Char) : Prop :=
  ∃ h, x = .ok ⟨v, rest, h⟩

/-- What a reading brings, without the proof that its rest is shorter. Stripped readings of
different texts can be compared. -/
def strip {α : Type} {s : List Char} (x : Reading α s) : Except Fault (α × List Char) :=
  x.map fun t ↦ (t.value, t.rest)

theorem strip_eq_ok {α : Type} {s rest : List Char} {x : Reading α s} {v : α} :
    strip x = .ok (v, rest) ↔ Reads x v rest := by
  constructor
  · intro h
    obtain ⟨t, ht, hv⟩ := exists_of_map_eq_ok h
    obtain ⟨v', rest', hlt⟩ := t
    injection hv with hvalue hrest
    subst hvalue hrest
    exact ⟨hlt, ht⟩
  · rintro ⟨hlt, rfl⟩
    rfl

/-- A reader that fails brings no value. -/
theorem error_ne_ok {α : Type} {e : Fault} {a : α} : Except.error e ≠ .ok a := by
  intro h
  cases h

theorem strip_map {α β : Type} {s : List Char} (x : Reading α s) (f : α → β) :
    strip (x.map (·.map f)) = (strip x).map fun p ↦ (f p.1, p.2) := by
  cases x <;> rfl

end LspClient.Json
