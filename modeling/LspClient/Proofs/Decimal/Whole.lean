import LspClient.Decimal.Whole

/-!
# Reading whole numbers back

The digits of a number are digits, there is at least one, and only zero begins with a zero. A reader
with a bound that the number keeps takes them all (`read_digits`), and their value is the number
(`value_digits`). What else it takes for a number has leading zeros or a plus sign
(`read_eq_ok_iff`).
-/

namespace LspClient.Decimal

theorem isDigit_of_mem_digits {n : Nat} {c : Char} (h : c ∈ digits n) : c.isDigit = true :=
  Nat.isDigit_of_mem_toDigits (by decide) (by decide) h

/-- Only zero begins with a zero. -/
theorem digits_head?_ne {n : Nat} (h : n ≠ 0) : (digits n).head? ≠ some '0' := by
  induction n using Nat.strongRecOn with
  | ind n ih =>
    rw [digits, Nat.toDigits_eq_if (by decide)]
    split
    case isTrue hlt =>
      simpa using h
    case isFalse hge =>
      have hne : Nat.toDigits 10 (n / 10) ≠ [] := Nat.toDigits_ne_nil
      obtain ⟨c, cs, hcs⟩ := List.exists_cons_of_ne_nil hne
      have hhead := ih (n / 10) (by omega) (by omega)
      rw [digits, hcs] at hhead
      rwa [hcs]

/-- The digits of a number other than zero: a first one that is no zero, and the others. -/
theorem exists_digits_eq_cons {n : Nat} (h : n ≠ 0) : ∃ c cs, digits n = c :: cs ∧ c ≠ '0' ∧
    ∀ d ∈ c :: cs, d.isDigit = true := by
  cases hn : digits n with
  | nil => exact absurd hn Nat.toDigits_ne_nil
  | cons c cs =>
    refine ⟨c, cs, rfl, ?_, fun d hd ↦ isDigit_of_mem_digits (hn ▸ hd)⟩
    rintro rfl
    exact digits_head?_ne h (by rw [hn, List.head?_cons])

/-- The value of digits, in the words of the standard library. -/
theorem value_eq_ofDigitChars (cs : List Char) : value cs = Nat.ofDigitChars 10 cs 0 := by
  rw [Nat.ofDigitChars_eq_foldl]
  rfl

theorem value_digits (n : Nat) : value (digits n) = n := by
  rw [value_eq_ofDigitChars, digits, Nat.ofDigitChars_ten_toDigits]

/-- More digits never make a number smaller. -/
theorem le_ofDigitChars (n : Nat) (cs : List Char) : n ≤ Nat.ofDigitChars 10 cs n := by
  induction cs generalizing n with
  | nil => exact Nat.le_of_eq Nat.ofDigitChars_nil.symm
  | cons c cs ih =>
    have := ih (10 * n + digitValue c)
    rw [Nat.ofDigitChars_cons]
    exact Nat.le_trans (by omega) this

/-- A reader takes digits as long as their value stays within its limit. -/
theorem readDigits_eq_ok {limit n : Nat} {cs : List Char} (hdigit : ∀ c ∈ cs, c.isDigit = true)
    (hle : Nat.ofDigitChars 10 cs n ≤ limit) :
    readDigits limit n cs = .ok (Nat.ofDigitChars 10 cs n) := by
  induction cs generalizing n with
  | nil => rfl
  | cons c cs ih =>
    have hc : c.isDigit = true := hdigit c List.mem_cons_self
    rw [Nat.ofDigitChars_cons] at hle ⊢
    have hprefix : 10 * n + digitValue c ≤ limit := Nat.le_trans (le_ofDigitChars _ cs) hle
    rw [readDigits, hc, if_neg (by simp), if_neg (by omega)]
    exact ih (fun d hd ↦ hdigit d (List.mem_cons_of_mem c hd)) hle

/-- No digits begin with a plus sign. -/
theorem read_digits_eq (limit n : Nat) : read limit (digits n) = readDigits limit 0 (digits n) := by
  have hplus : '+' ∉ digits n := fun hmem ↦ absurd (isDigit_of_mem_digits hmem) (by decide)
  unfold read
  split
  case h_1 hn => exact absurd hn Nat.toDigits_ne_nil
  case h_2 hn => exact absurd (hn ▸ List.mem_cons_self) hplus
  case h_3 hn => exact absurd (hn ▸ List.mem_cons_self) hplus
  case h_4 => rfl

/-- A number within the limit is read back from its digits. -/
theorem read_digits {limit n : Nat} (h : n ≤ limit) : read limit (digits n) = .ok n := by
  have hvalue : Nat.ofDigitChars 10 (digits n) 0 = n := Nat.ofDigitChars_ten_toDigits
  rw [read_digits_eq, readDigits_eq_ok (fun c hc ↦ isDigit_of_mem_digits hc) (by rwa [hvalue]),
    hvalue]

/-- A reader that takes digits brings their value. -/
theorem eq_of_readDigits {limit n m : Nat} {cs : List Char} (h : readDigits limit n cs = .ok m) :
    m = Nat.ofDigitChars 10 cs n ∧ (n ≤ limit → m ≤ limit) := by
  induction cs generalizing n with
  | nil =>
    cases h
    exact ⟨Nat.ofDigitChars_nil.symm, id⟩
  | cons c cs ih =>
    rw [readDigits] at h
    split at h
    case isTrue => cases h
    case isFalse =>
      split at h
      case isTrue => cases h
      case isFalse hle =>
        obtain ⟨hvalue, hlimit⟩ := ih h
        exact ⟨by rw [hvalue, Nat.ofDigitChars_cons]; rfl, fun _ ↦ hlimit (Nat.le_of_not_lt hle)⟩

/-- A number beyond the limit is not read. -/
theorem exists_of_read_digits {limit n : Nat} (h : limit < n) :
    ∃ refusal, read limit (digits n) = .error refusal := by
  cases hread : read limit (digits n) with
  | error refusal => exact ⟨refusal, rfl⟩
  | ok m =>
    rw [read_digits_eq] at hread
    obtain ⟨hvalue, hlimit⟩ := eq_of_readDigits hread
    rw [digits, Nat.ofDigitChars_ten_toDigits] at hvalue
    exact absurd (hlimit (Nat.zero_le limit)) (Nat.not_le_of_lt (hvalue ▸ h))

/-! ### Numbers in other forms -/

/-- A text is a whole number: digits, with a plus sign in front of them or none. -/
def IsNumeral (s : List Char) (n : Nat) : Prop :=
  ∃ ds : List Char, ds ≠ [] ∧ (∀ c ∈ ds, c.isDigit = true) ∧ value ds = n ∧ (s = ds ∨ s = '+' :: ds)

/-- A reader takes nothing but digits. -/
theorem isDigit_of_readDigits {limit n m : Nat} {cs : List Char}
    (h : readDigits limit n cs = .ok m) : ∀ c ∈ cs, c.isDigit = true := by
  induction cs generalizing n with
  | nil => exact List.forall_mem_nil _
  | cons c cs ih =>
    rw [readDigits] at h
    split at h
    case isTrue => cases h
    case isFalse hc =>
      split at h
      case isTrue => cases h
      case isFalse => exact List.forall_mem_cons.2 ⟨by simpa using hc, ih h⟩

theorem readDigits_zero_eq_ok_iff {limit n : Nat} {ds : List Char} :
    readDigits limit 0 ds = .ok n ↔
      (∀ c ∈ ds, c.isDigit = true) ∧ value ds = n ∧ n ≤ limit := by
  rw [value_eq_ofDigitChars]
  constructor
  · intro h
    obtain ⟨rfl, hlimit⟩ := eq_of_readDigits h
    exact ⟨isDigit_of_readDigits h, rfl, hlimit (Nat.zero_le limit)⟩
  · rintro ⟨hdigit, rfl, hlimit⟩
    exact readDigits_eq_ok hdigit hlimit

/-- **What a reader takes for a number**: a whole number within its limit. -/
theorem read_eq_ok_iff {limit n : Nat} {s : List Char} :
    read limit s = .ok n ↔ IsNumeral s n ∧ n ≤ limit := by
  constructor
  · intro h
    rw [read.eq_def] at h
    split at h
    case h_1 | h_2 => cases h
    case h_3 ds hne =>
      obtain ⟨hdigit, hvalue, hlimit⟩ := readDigits_zero_eq_ok_iff.1 h
      exact ⟨⟨ds, fun hnil ↦ hne hnil, hdigit, hvalue, .inr rfl⟩, hlimit⟩
    case h_4 hne _ _ =>
      obtain ⟨hdigit, hvalue, hlimit⟩ := readDigits_zero_eq_ok_iff.1 h
      exact ⟨⟨s, hne, hdigit, hvalue, .inl rfl⟩, hlimit⟩
  · rintro ⟨⟨ds, hne, hdigit, hvalue, rfl | rfl⟩, hlimit⟩
    · have hread := readDigits_zero_eq_ok_iff.2 ⟨hdigit, hvalue, hlimit⟩
      obtain ⟨d, ds, rfl⟩ := List.exists_cons_of_ne_nil hne
      have hplus : d ≠ '+' := fun h ↦ absurd (hdigit d List.mem_cons_self) (h ▸ by decide)
      rw [read.eq_def]
      split
      case h_1 heq => cases heq
      case h_2 heq => exact absurd (List.cons.inj heq).1 hplus
      case h_3 heq => exact absurd (List.cons.inj heq).1 hplus
      case h_4 => exact hread
    · have hread := readDigits_zero_eq_ok_iff.2 ⟨hdigit, hvalue, hlimit⟩
      obtain ⟨d, ds, rfl⟩ := List.exists_cons_of_ne_nil hne
      exact hread

end LspClient.Decimal
