import LspClient.Proofs.Json.Tokens

/-!
# What the token readers accept

A scanner that succeeds has passed over a token of the grammar: what it was given is that token and
then what it leaves. Together with the facts that it passes over every token this says exactly what
it accepts. A string that is kept says what is kept of it (`spells_of_stringTail`), and one that is
skipped only has the form of a string (`isLiteral_of_skipString`).
-/

namespace LspClient.Json

variable {s r w : List Char} {c : Char}

/-! ### Blanks and words -/

/-- Blanks after blanks. -/
def Blank.append (a b : Blank) : Blank where
  chars := a.chars ++ b.chars
  isSpace c hc := by
    rcases List.mem_append.1 hc with ha | hb
    · exact a.isSpace c ha
    · exact b.isSpace c hb

/-- What is skipped before a token is blanks. -/
theorem exists_blank (h : skipSpace s = r) : ∃ b : Blank, s = b.chars ++ r := by
  refine ⟨⟨s.takeWhile isSpace, ?_⟩, ?_⟩
  · exact fun c hc ↦ List.all_eq_true.1 List.all_takeWhile c hc
  · rw [← h]
    exact List.takeWhile_append_dropWhile.symm

theorem eq_append_of_word (h : word w s = .ok r) : s = w ++ r := by
  induction w generalizing s with
  | nil => cases h; rfl
  | cons c w ih =>
    cases s with
    | nil => cases h
    | cons d s =>
      rw [word] at h
      split at h
      case isTrue heq => rw [heq, ih h, List.cons_append]
      case isFalse => cases h

/-! ### Numbers -/

theorem isDigit_of_mem_leadingDigits (h : c ∈ leadingDigits s) : c.isDigit = true :=
  List.all_eq_true.1 List.all_takeWhile c h

/-- Digits in front, and what comes after them, are the whole. -/
theorem leadingDigits_append_afterDigits (s : List Char) : leadingDigits s ++ afterDigits s = s :=
  List.takeWhile_append_dropWhile

/-- Digits, if there are any at the front. -/
theorem isDigits_leadingDigits (h : (leadingDigits s).isEmpty = false) :
    IsDigits (leadingDigits s) :=
  ⟨List.isEmpty_eq_false_iff.1 h, fun _ hc ↦ isDigit_of_mem_leadingDigits hc⟩

/-- What is scanned as the digits of an integer is one by the grammar. -/
theorem isInteger_of_integerDigits {ds : List Char} (h : integerDigits s = .ok (ds, r)) :
    s = ds ++ r ∧ IsInteger ds := by
  rw [integerDigits.eq_def] at h
  split at h
  case h_1 => cases h
  case h_2 r' =>
    split at h
    case isTrue => cases h; exact ⟨rfl, .zero⟩
    case isFalse => cases h
  case h_3 c r' hne =>
    split at h
    case isTrue hc =>
      cases h
      refine ⟨by rw [List.cons_append, leadingDigits_append_afterDigits], .digits ?_ ?_⟩
      · rintro rfl
        exact hne rfl
      · exact List.forall_mem_cons.2 ⟨hc, fun _ hd ↦ isDigit_of_mem_leadingDigits hd⟩
    case isFalse => cases h

/-- What is scanned as a fraction is one by the grammar. -/
theorem isFraction_of_fractionDigits {ds : List Char} (h : fractionDigits s = .ok (ds, r)) :
    ∃ t, s = t ++ r ∧ IsFraction t := by
  rw [fractionDigits.eq_def] at h
  split at h
  case h_1 r' =>
    split at h
    case isTrue => split at h <;> cases h
    case isFalse hdigits =>
      cases h
      refine ⟨'.' :: leadingDigits r', ?_, .some (isDigits_leadingDigits (by simpa using hdigits))⟩
      rw [List.cons_append, leadingDigits_append_afterDigits]
  case h_2 => cases h; exact ⟨[], rfl, .none⟩

theorem exists_of_exponentSign (s : List Char) :
    ∃ sign ∈ [[], ['+'], ['-']], s = sign ++ (exponentSign s).2 := by
  rw [exponentSign.eq_def]
  split
  · exact ⟨['-'], by simp, rfl⟩
  · exact ⟨['+'], by simp, rfl⟩
  · exact ⟨[], by simp, rfl⟩

/-- What is scanned as an exponent is one by the grammar. -/
theorem isExponent_of_exponentPart {e : Option ExponentPart} (h : exponentPart s = .ok (e, r)) :
    ∃ t, s = t ++ r ∧ IsExponent t := by
  rw [exponentPart.eq_def] at h
  split at h
  case h_1 => cases h; exact ⟨[], rfl, .none⟩
  case h_2 c r' =>
    split at h
    case isTrue hc =>
      obtain ⟨sign, hsign, hr'⟩ := exists_of_exponentSign r'
      simp only at h
      split at h
      case isTrue => split at h <;> cases h
      case isFalse hdigits =>
        cases h
        refine ⟨c :: (sign ++ leadingDigits (exponentSign r').2), ?_,
          .some hc hsign (isDigits_leadingDigits (by simpa using hdigits))⟩
        rw [List.cons_append, List.append_assoc, leadingDigits_append_afterDigits, ← hr']
    case isFalse => cases h; exact ⟨[], rfl, .none⟩

/-- What is scanned as a number without its sign is one by the grammar. -/
theorem isUnsigned_of_numberParts {p : NumberParts} (h : numberParts s = .ok (p, r)) :
    ∃ t, s = t ++ r ∧ IsUnsigned t := by
  rw [numberParts] at h
  split at h
  case h_1 => cases h
  case h_2 integer r₁ hinteger =>
    split at h
    case h_1 => cases h
    case h_2 fraction r₂ hfraction =>
      split at h
      case h_1 => cases h
      case h_2 exponent r₃ hexponent =>
        cases h
        obtain ⟨rfl, hinteger⟩ := isInteger_of_integerDigits hinteger
        obtain ⟨f, rfl, hfraction⟩ := isFraction_of_fractionDigits hfraction
        obtain ⟨e, rfl, hexponent⟩ := isExponent_of_exponentPart hexponent
        refine ⟨integer ++ (f ++ e), ?_, .mk ‹_› ‹_› ‹_›⟩
        simp only [List.append_assoc]

theorem isUnsigned_of_skipNumber (h : skipNumber s = .ok r) : ∃ t, s = t ++ r ∧ IsUnsigned t := by
  rw [skipNumber] at h
  split at h
  case h_1 hparts => cases h; exact isUnsigned_of_numberParts hparts
  case h_2 => cases h

/-- So is a number that is read. -/
theorem isUnsigned_of_readNumber {negative : Bool} {n : Number}
    (h : readNumber negative s = .ok (n, r)) : ∃ t, s = t ++ r ∧ IsUnsigned t := by
  rw [readNumber] at h
  split at h
  case h_1 => cases h
  case h_2 p r' hparts =>
    split at h
    case h_1 => cases h; exact isUnsigned_of_numberParts hparts
    case h_2 => cases h

/-! ### Strings -/

/-- What is scanned as four hexadecimal digits are four, with that number. -/
theorem isHex_of_hexEscape {n : Nat} (h : hexEscape s = .ok (n, r)) :
    ∃ x, s = x ++ r ∧ IsHex x n := by
  rw [hexEscape.eq_def] at h
  split at h
  case h_1 a b c d r' =>
    split at h
    case h_1 ha hb hc hd => cases h; exact ⟨[a, b, c, d], rfl, .mk ha hb hc hd⟩
    case h_2 => cases h
  case h_2 => split at h <;> cases h

/-- An escape that is skipped may stand in a string. -/
theorem isLiteral_of_skipEscape (h : skipEscape s = .ok r) :
    ∃ e, s = e ++ r ∧ ∀ t, IsLiteral t → IsLiteral ('\\' :: (e ++ t)) := by
  rw [skipEscape.eq_def] at h
  split at h
  case h_1 => cases h
  case h_2 s =>
    obtain ⟨⟨n, r'⟩, hhex, hr⟩ := exists_of_map_eq_ok h
    obtain rfl : r' = r := hr
    obtain ⟨x, rfl, hx⟩ := isHex_of_hexEscape hhex
    exact ⟨'u' :: x, rfl, fun t ht ↦ .unicode hx ht⟩
  case h_3 c s _ =>
    split at h
    case isTrue hc =>
      cases h
      have hshort : ∀ c ∈ ['"', '\\', '/', 'b', 'f', 'n', 'r', 't'],
          ∃ d, (c, d) ∈ shortEscapes := by
        simp [shortEscapes]
      obtain ⟨d, hd⟩ := hshort c hc
      exact ⟨[c], rfl, fun t ht ↦ .escape hd ht⟩
    case isFalse => cases h

/-- What is skipped as a string is a literal by the grammar. -/
theorem isLiteral_of_skipString (h : skipString s = .ok r) :
    ∃ t, s = t ++ '"' :: r ∧ IsLiteral t := by
  fun_induction skipString s with
  | case1 => cases h
  | case2 r' => cases h; exact ⟨[], rfl, .nil⟩
  | case3 => cases h
  | case4 r' r'' hescape _ ih =>
    obtain ⟨t, rfl, ht⟩ := ih h
    obtain ⟨e, rfl, he⟩ := isLiteral_of_skipEscape hescape
    exact ⟨'\\' :: (e ++ t), by simp, he t ht⟩
  | case5 => cases h
  | case6 c r' hquote hback hctl ih =>
    obtain ⟨t, rfl, ht⟩ := ih h
    exact ⟨c :: t, rfl, .char ⟨hquote, hback, Nat.le_of_not_lt hctl⟩ ht⟩

/-- An escape of hexadecimal digits, or a pair of them, says its character. -/
theorem spells_of_unicodeEscape (h : unicodeEscape s = .ok (c, r)) :
    ∃ e, s = e ++ r ∧ ∀ cs t, Spells cs t → Spells (c :: cs) ('\\' :: 'u' :: (e ++ t)) := by
  rw [unicodeEscape.eq_def] at h
  split at h
  case h_1 => cases h
  case h_2 n r₁ hhex =>
    obtain ⟨x, rfl, hx⟩ := isHex_of_hexEscape hhex
    split at h
    case isTrue => cases h
    case isFalse hlow =>
      split at h
      case isTrue hsingle =>
        obtain ⟨rfl, rfl⟩ := Prod.mk.inj (Except.ok.inj h)
        exact ⟨x, rfl, fun cs t ht ↦ .unicode hx (by omega) ht⟩
      case isFalse hhigh =>
        split at h
        case h_1 r₂ =>
          split at h
          case h_1 => cases h
          case h_2 n' r₃ hhex' =>
            obtain ⟨y, rfl, hy⟩ := isHex_of_hexEscape hhex'
            split at h
            case isTrue => cases h
            case isFalse hlow' =>
              obtain ⟨rfl, rfl⟩ := Prod.mk.inj (Except.ok.inj h)
              refine ⟨x ++ '\\' :: 'u' :: y, by simp, fun cs t ht ↦ ?_⟩
              rw [List.append_assoc]
              exact .pair hx hy (by omega) (by omega) ht
        all_goals cases h

/-- An escape that is kept says its character. -/
theorem spells_of_escape (h : escape s = .ok (c, r)) :
    ∃ e, s = e ++ r ∧ ∀ cs t, Spells cs t → Spells (c :: cs) ('\\' :: (e ++ t)) := by
  -- an escape of one letter
  have hshort : ∀ {d c : Char}, (d, c) ∈ shortEscapes → ∀ cs t, Spells cs t →
      Spells (c :: cs) ('\\' :: ([d] ++ t)) := fun hd cs t ht ↦ .escape hd ht
  rw [escape.eq_def] at h
  split at h
  case h_1 => cases h
  case h_10 s =>
    obtain ⟨e, rfl, he⟩ := spells_of_unicodeEscape h
    exact ⟨'u' :: e, rfl, he⟩
  case h_11 => cases h
  all_goals
    cases h
    exact ⟨[_], rfl, hshort (by simp [shortEscapes])⟩

/-- A string that is kept says the characters that are kept of it. -/
theorem spells_of_stringTail {taken cs : List Char} (h : stringTail taken s = .ok (cs, r)) :
    ∃ said t, s = t ++ '"' :: r ∧ Spells said t ∧ cs = taken.reverse ++ said := by
  fun_induction stringTail taken s with
  | case1 => cases h
  | case2 taken r' => cases h; exact ⟨[], [], rfl, .nil, (List.append_nil _).symm⟩
  | case3 => cases h
  | case4 taken r' c r'' hescape _ ih =>
    obtain ⟨said, t, rfl, ht, rfl⟩ := ih h
    obtain ⟨e, rfl, he⟩ := spells_of_escape hescape
    refine ⟨c :: said, '\\' :: (e ++ t), by simp, he said t ht, ?_⟩
    rw [List.reverse_cons, List.append_assoc, List.singleton_append]
  | case5 => cases h
  | case6 taken c r' hquote hback hctl ih =>
    obtain ⟨said, t, rfl, ht, rfl⟩ := ih h
    refine ⟨c :: said, c :: t, rfl, .char ⟨hquote, hback, Nat.le_of_not_lt hctl⟩ ht, ?_⟩
    rw [List.reverse_cons, List.append_assoc, List.singleton_append]

/-! ### Scalars -/

/-- What is skipped as a scalar is a value by the grammar. -/
theorem derives_of_skipScalar (h : skipScalar s = .ok r) :
    ∃ t, s = t ++ r ∧ Derives .value t := by
  rw [skipScalar.eq_def] at h
  split at h
  case h_1 => cases h
  case h_2 => exact ⟨_, congrArg ('n' :: ·) (eq_append_of_word h), .nullWord⟩
  case h_3 => exact ⟨_, congrArg ('t' :: ·) (eq_append_of_word h), .trueWord⟩
  case h_4 => exact ⟨_, congrArg ('f' :: ·) (eq_append_of_word h), .falseWord⟩
  case h_5 =>
    obtain ⟨t, rfl, ht⟩ := isLiteral_of_skipString h
    exact ⟨_, by simp, .string ht⟩
  case h_6 =>
    obtain ⟨t, rfl, ht⟩ := isUnsigned_of_skipNumber h
    exact ⟨_, rfl, .negative ht⟩
  case h_7 =>
    split at h
    case isTrue =>
      obtain ⟨t, ht, hunsigned⟩ := isUnsigned_of_skipNumber h
      exact ⟨t, ht, .natural hunsigned⟩
    case isFalse => cases h

/-- So is what is read as a scalar. -/
theorem derives_of_readScalar {v : Json} (h : readScalar s = .ok (v, r)) :
    ∃ t, s = t ++ r ∧ Derives .value t := by
  rw [readScalar.eq_def] at h
  split at h
  case h_1 => cases h
  case h_2 =>
    obtain ⟨r', hword, hr⟩ := exists_of_map_eq_ok h
    cases hr
    exact ⟨_, congrArg ('n' :: ·) (eq_append_of_word hword), .nullWord⟩
  case h_3 =>
    obtain ⟨r', hword, hr⟩ := exists_of_map_eq_ok h
    cases hr
    exact ⟨_, congrArg ('t' :: ·) (eq_append_of_word hword), .trueWord⟩
  case h_4 =>
    obtain ⟨r', hword, hr⟩ := exists_of_map_eq_ok h
    cases hr
    exact ⟨_, congrArg ('f' :: ·) (eq_append_of_word hword), .falseWord⟩
  case h_5 =>
    obtain ⟨⟨cs, r'⟩, hstring, hr⟩ := exists_of_map_eq_ok h
    cases hr
    obtain ⟨said, t, rfl, ht, -⟩ := spells_of_stringTail hstring
    exact ⟨_, by simp, .string ht.isLiteral⟩
  case h_6 =>
    obtain ⟨⟨n, r'⟩, hnumber, hr⟩ := exists_of_map_eq_ok h
    cases hr
    obtain ⟨t, rfl, ht⟩ := isUnsigned_of_readNumber hnumber
    exact ⟨_, rfl, .negative ht⟩
  case h_7 =>
    split at h
    case isTrue =>
      obtain ⟨⟨n, r'⟩, hnumber, hr⟩ := exists_of_map_eq_ok h
      cases hr
      obtain ⟨t, ht, hunsigned⟩ := isUnsigned_of_readNumber hnumber
      exact ⟨t, ht, .natural hunsigned⟩
    case isFalse => cases h

end LspClient.Json
