import LspClient.Json.Fault

/-!
# Tokens of JSON text

Blanks, literal words, strings and numbers, each read from the front of a text. Strings and numbers
have two readers. One keeps the token: escapes are decoded, surrogates must come in pairs, and a
number must be finite. The other skips it: an escape needs its four hexadecimal digits and a number
its digits, but neither is looked at further.
-/

namespace LspClient.Json

/-- A mapped result came from a result. -/
theorem exists_of_map_eq_ok {ε α β : Type} {f : α → β} {x : Except ε α} {b : β}
    (h : x.map f = .ok b) : ∃ a, x = .ok a ∧ f a = b := by
  cases x with
  | error e => contradiction
  | ok a => exact ⟨a, rfl, Except.ok.inj h⟩

/-! ### Blanks and words -/

/-- The characters that may stand between tokens. -/
def isSpace (c : Char) : Bool :=
  c = ' ' || c = '\n' || c = '\t' || c = '\r'

/-- The text from its first token on. -/
def skipSpace (s : List Char) : List Char :=
  s.dropWhile isSpace

theorem skipSpace_length_le (s : List Char) : (skipSpace s).length ≤ s.length :=
  (List.dropWhile_sublist isSpace).length_le

theorem length_le_of_skipSpace_eq {s r : List Char} (h : skipSpace s = r) :
    r.length ≤ s.length := by
  rw [← h]
  exact skipSpace_length_le s

theorem length_lt_of_skipSpace_eq_cons {s r : List Char} {c : Char} (h : skipSpace s = c :: r) :
    r.length < s.length :=
  Nat.lt_of_lt_of_le (by simp [h]) (skipSpace_length_le s)

/-- Reads what is left of a literal word whose first letter has been read. -/
def word : List Char → List Char → Except Fault (List Char)
  | [], s => .ok s
  | _ :: _, [] => .error ⟨.endInValue, [], 0⟩
  | c :: w, d :: s => if c = d then word w s else .error (.peek .expectedIdent (d :: s))

theorem word_length_le {w s r : List Char} (h : word w s = .ok r) : r.length ≤ s.length := by
  induction w generalizing s with
  | nil => cases h; exact Nat.le_refl _
  | cons c w ih =>
    cases s with
    | nil => cases h
    | cons d s =>
      rw [word] at h
      split at h
      · exact Nat.le_succ_of_le (ih h)
      · cases h

/-! ### Strings -/

/-- The four hexadecimal digits of an escape. -/
def hexEscape : List Char → Except Fault (Nat × List Char)
  | a :: b :: c :: d :: rest =>
    match Text.hexValue? a, Text.hexValue? b, Text.hexValue? c, Text.hexValue? d with
    | some a', some b', some c', some d' =>
      .ok (a' * 0x1000 + b' * 0x100 + c' * 0x10 + d', rest)
    | _, _, _, _ => .error ⟨.invalidEscape, a :: b :: c :: d :: rest, 4⟩
  | s =>
    if Fault.byteCount s < 4 then .error ⟨.endInString, [], 0⟩
    else .error ⟨.invalidEscape, s, 4⟩

theorem hexEscape_length {s r : List Char} {n : Nat} (h : hexEscape s = .ok (n, r)) :
    s.length = r.length + 4 := by
  unfold hexEscape at h
  repeat' split at h
  all_goals first | contradiction | (injection h with h; injection h with _ h; subst h; rfl)

/-- The character of an escape that begins with `u`, which for a character beyond the Basic
Multilingual Plane is a pair of such escapes. -/
def unicodeEscape (s : List Char) : Except Fault (Char × List Char) :=
  match hexEscape s with
  | .error e => .error e
  | .ok (n, r) =>
    if 0xDC00 ≤ n ∧ n ≤ 0xDFFF then .error ⟨.loneSurrogate, r, 0⟩
    else if n < 0xD800 ∨ 0xDBFF < n then .ok (.ofNat n, r)
    else match r with
      | '\\' :: 'u' :: r =>
        match hexEscape r with
        | .error e => .error e
        | .ok (n', r') =>
          if n' < 0xDC00 ∨ 0xDFFF < n' then .error ⟨.loneSurrogate, r', 0⟩
          else .ok (.ofNat (0x10000 + (n - 0xD800) * 0x400 + (n' - 0xDC00)), r')
      | [] | ['\\'] => .error ⟨.endInString, [], 0⟩
      | '\\' :: r => .error (.peek .endOfHexEscape r)
      | r => .error (.peek .endOfHexEscape r)

theorem unicodeEscape_length_le {s r : List Char} {c : Char} (h : unicodeEscape s = .ok (c, r)) :
    r.length + 4 ≤ s.length := by
  unfold unicodeEscape at h
  split at h
  · contradiction
  · rename_i hs
    have hs := hexEscape_length hs
    repeat' split at h
    all_goals first
      | contradiction
      | (injection h with h; injection h with _ h; subst h; omega)
      | (rename_i hr _ ; have hr := hexEscape_length hr
         injection h with h; injection h with _ h; subst h
         simp only [List.length_cons] at hs; omega)

/-- The character of an escape whose backslash has been read. -/
def escape : List Char → Except Fault (Char × List Char)
  | [] => .error ⟨.endInString, [], 0⟩
  | '"' :: r => .ok ('"', r)
  | '\\' :: r => .ok ('\\', r)
  | '/' :: r => .ok ('/', r)
  | 'b' :: r => .ok ('\x08', r)
  | 'f' :: r => .ok ('\x0C', r)
  | 'n' :: r => .ok ('\n', r)
  | 'r' :: r => .ok ('\r', r)
  | 't' :: r => .ok ('\t', r)
  | 'u' :: r => unicodeEscape r
  | c :: r => .error (.peek .invalidEscape (c :: r))

theorem escape_length_lt {s r : List Char} {c : Char} (h : escape s = .ok (c, r)) :
    r.length < s.length := by
  unfold escape at h
  split at h
  all_goals first
    | contradiction
    | (injection h with h; injection h with _ h; subst h; simp only [List.length_cons]; omega)
    | (have h₁ := unicodeEscape_length_le h; simp only [List.length_cons]; omega)

/-- Reads a string whose opening quote has been read; `taken` holds its characters so far, latest
first. -/
def stringTail (taken : List Char) (s : List Char) : Except Fault (List Char × List Char) :=
  match s with
  | [] => .error ⟨.endInString, [], 0⟩
  | '"' :: r => .ok (taken.reverse, r)
  | '\\' :: r =>
    match h : escape r with
    | .error e => .error e
    | .ok (c, r') =>
      have := escape_length_lt h
      stringTail (c :: taken) r'
  | c :: r =>
    if c.toNat < 0x20 then .error (.peek .controlCharacter (c :: r)) else stringTail (c :: taken) r
  termination_by s.length

theorem stringTail_length {taken s cs r : List Char} (h : stringTail taken s = .ok (cs, r)) :
    cs.length + r.length < taken.length + s.length := by
  fun_induction stringTail taken s with
  | case1 => contradiction
  | case2 taken r' =>
    injection h with h; injection h with h₁ h₂; subst h₁ h₂
    simp only [List.length_reverse, List.length_cons]
    omega
  | case3 => contradiction
  | case4 taken r' c r'' he hlt ih =>
    have := ih h
    simp only [List.length_cons] at this ⊢
    omega
  | case5 => contradiction
  | case6 taken c r' _ _ _ ih =>
    have := ih h
    simp only [List.length_cons] at this ⊢
    omega

theorem stringTail_nil_length_lt {s cs r : List Char} (h : stringTail [] s = .ok (cs, r)) :
    r.length < s.length := by
  have := stringTail_length h
  simp only [List.length_nil] at this
  omega

/-- Skips an escape whose backslash has been read. -/
def skipEscape : List Char → Except Fault (List Char)
  | [] => .error ⟨.endInString, [], 0⟩
  | 'u' :: r => (hexEscape r).map (·.2)
  | c :: r =>
    if c ∈ ['"', '\\', '/', 'b', 'f', 'n', 'r', 't'] then .ok r
    else .error (.peek .invalidEscape (c :: r))

theorem skipEscape_length_lt {s r : List Char} (h : skipEscape s = .ok r) :
    r.length < s.length := by
  unfold skipEscape at h
  split at h
  · contradiction
  · rename_i r'
    cases hx : hexEscape r' with
    | error e => rw [hx] at h; contradiction
    | ok p =>
      obtain ⟨n, r''⟩ := p
      rw [hx] at h
      injection h with h
      subst h
      have := hexEscape_length hx
      simp only [List.length_cons]
      omega
  · split at h
    · injection h with h
      subst h
      exact Nat.lt_succ_self _
    · contradiction

/-- Skips a string whose opening quote has been read. -/
def skipString (s : List Char) : Except Fault (List Char) :=
  match s with
  | [] => .error ⟨.endInString, [], 0⟩
  | '"' :: r => .ok r
  | '\\' :: r =>
    match h : skipEscape r with
    | .error e => .error e
    | .ok r' =>
      have := skipEscape_length_lt h
      skipString r'
  | c :: r => if c.toNat < 0x20 then .error ⟨.controlCharacter, c :: r, 0⟩ else skipString r
  termination_by s.length

theorem skipString_length_lt {s r : List Char} (h : skipString s = .ok r) :
    r.length < s.length := by
  fun_induction skipString s with
  | case1 => contradiction
  | case2 r' => injection h with h; subst h; exact Nat.lt_succ_self _
  | case3 => contradiction
  | case4 r' r'' he hlt ih => have := ih h; simp only [List.length_cons]; omega
  | case5 => contradiction
  | case6 c r' _ _ _ ih => have := ih h; simp only [List.length_cons]; omega

/-! ### Numbers -/

/-- The digits at the front of a text. -/
def leadingDigits (s : List Char) : List Char :=
  s.takeWhile Char.isDigit

/-- The text after the digits at its front. -/
def afterDigits (s : List Char) : List Char :=
  s.dropWhile Char.isDigit

theorem afterDigits_length_le (s : List Char) : (afterDigits s).length ≤ s.length :=
  (List.dropWhile_sublist Char.isDigit).length_le

/-- The digits before the fraction, and the text after them: a zero alone, or digits that do not
start with one. -/
def integerDigits : List Char → Except Fault (List Char × List Char)
  | [] => .error ⟨.endInValue, [], 0⟩
  | '0' :: r =>
    if (leadingDigits r).isEmpty then .ok (['0'], r) else .error (.peek .invalidNumber r)
  | c :: r =>
    if c.isDigit then .ok (c :: leadingDigits r, afterDigits r)
    else .error (.peek .invalidNumber (c :: r))

theorem integerDigits_length_lt {s ds r : List Char} (h : integerDigits s = .ok (ds, r)) :
    r.length < s.length := by
  unfold integerDigits at h
  split at h
  · contradiction
  · split at h
    · injection h with h; injection h with _ h; subst h; exact Nat.lt_succ_self _
    · contradiction
  · split at h
    · rename_i c r' _ _
      injection h with h; injection h with _ h; subst h
      have := afterDigits_length_le r'
      simp only [List.length_cons]
      omega
    · contradiction

/-- The digits of a fraction, and the text after them; none when there is no fraction. -/
def fractionDigits : List Char → Except Fault (List Char × List Char)
  | '.' :: r =>
    if (leadingDigits r).isEmpty then
      match r with
      | [] => .error ⟨.endInValue, [], 0⟩
      | r => .error (.peek .invalidNumber r)
    else .ok (leadingDigits r, afterDigits r)
  | s => .ok ([], s)

theorem fractionDigits_length_le {s ds r : List Char} (h : fractionDigits s = .ok (ds, r)) :
    r.length ≤ s.length := by
  unfold fractionDigits at h
  repeat' split at h
  all_goals first
    | contradiction
    | (injection h with h; injection h with _ h; subst h
       have := afterDigits_length_le ‹List Char›
       simp only [List.length_cons]
       omega)
    | (injection h with h; injection h with _ h; subst h; exact Nat.le_refl _)

/-- An exponent: whether it is negative, and its digits. -/
structure ExponentPart where
  negative : Bool
  digits : List Char

/-- The sign of an exponent, and the text after it. -/
def exponentSign : List Char → Bool × List Char
  | '-' :: r => (true, r)
  | '+' :: r => (false, r)
  | s => (false, s)

theorem exponentSign_length_le (s : List Char) : (exponentSign s).2.length ≤ s.length := by
  unfold exponentSign
  split <;> simp

/-- The exponent at the front of a text, and the text after it; none when there is none. -/
def exponentPart : List Char → Except Fault (Option ExponentPart × List Char)
  | [] => .ok (none, [])
  | c :: r =>
    if c = 'e' ∨ c = 'E' then
      let (negative, r') := exponentSign r
      if (leadingDigits r').isEmpty then
        match r' with
        | [] => .error ⟨.endInValue, [], 0⟩
        | r' => .error (.peek .invalidNumber r')
      else .ok (some ⟨negative, leadingDigits r'⟩, afterDigits r')
    else .ok (none, c :: r)

theorem exponentPart_length_le {s r : List Char} {e : Option ExponentPart}
    (h : exponentPart s = .ok (e, r)) : r.length ≤ s.length := by
  unfold exponentPart at h
  split at h
  · injection h with h; injection h with _ h; subst h; exact Nat.le_refl _
  · rename_i c r'
    have h₁ := exponentSign_length_le r'
    have h₂ := afterDigits_length_le (exponentSign r').2
    simp only at h
    repeat' split at h
    all_goals first
      | contradiction
      | (injection h with h; injection h with _ h; subst h; simp only [List.length_cons]; omega)

/-- The parts of a number's literal. -/
structure NumberParts where
  integer : List Char
  fraction : List Char
  exponent : Option ExponentPart

/-- Reads the parts of a number whose sign has been read. -/
def numberParts (s : List Char) : Except Fault (NumberParts × List Char) :=
  match integerDigits s with
  | .error e => .error e
  | .ok (integer, r₁) =>
    match fractionDigits r₁ with
    | .error e => .error e
    | .ok (fraction, r₂) =>
      match exponentPart r₂ with
      | .error e => .error e
      | .ok (exponent, r₃) => .ok (⟨integer, fraction, exponent⟩, r₃)

theorem numberParts_length_lt {s r : List Char} {p : NumberParts}
    (h : numberParts s = .ok (p, r)) : r.length < s.length := by
  unfold numberParts at h
  split at h
  · contradiction
  · rename_i h₁
    split at h
    · contradiction
    · rename_i h₂
      split at h
      · contradiction
      · rename_i h₃
        injection h with h; injection h with _ h; subst h
        have := integerDigits_length_lt h₁
        have := fractionDigits_length_le h₂
        have := exponentPart_length_le h₃
        omega

/-- Adds digits to a significand while it stays below `2 ^ 64`, and says how many were left over. -/
def absorb : Nat → List Char → Nat × Nat
  | n, [] => (n, 0)
  | n, d :: ds =>
    if UInt64.size ≤ 10 * n + Decimal.digitValue d then (n, ds.length + 1)
    else absorb (10 * n + Decimal.digitValue d) ds

/-- The largest exponent that is read to its end. -/
def greatestExponent : Nat :=
  2147483647

/-- The text after the first digit that takes a number past `limit`. -/
def afterOverrun (limit : Nat) : Nat → List Char → List Char
  | _, [] => []
  | n, d :: s =>
    if limit < 10 * n + Decimal.digitValue d then s
    else afterOverrun limit (10 * n + Decimal.digitValue d) s

/-- The number that parts stand for. Digits that take the significand past 64 bits are dropped and
raise the exponent instead. There is none when the value is not finite. -/
def NumberParts.value? (negative : Bool) (p : NumberParts) : Option Number :=
  let (significand, dropped) := absorb 0 p.integer
  if p.fraction.isEmpty ∧ p.exponent.isNone ∧ dropped = 0 then
    if !negative then some (.natural (.ofNat significand))
    else if h : 0 < significand ∧ significand ≤ 9223372036854775808 then
      some (.negative ⟨significand - 1, by omega⟩)
    else (Binary64.ofNat significand).map fun x ↦ .real (x.withSign true)
  else
    let (significand', left) := absorb significand p.fraction
    let shift : Int := dropped - (p.fraction.length - left : Nat)
    let written : Int :=
      match p.exponent with
      | none => 0
      | some e => if e.negative then -(Decimal.value e.digits : Int) else Decimal.value e.digits
    (Binary64.ofDecimal significand' (shift + written)).map fun x ↦ .real (x.withSign negative)

/-- Where a number that is not finite is given up, `r` being the text after it: there, or inside an
exponent that is too long to be read to its end. -/
def NumberParts.stop (p : NumberParts) (r : List Char) : List Char :=
  match p.exponent with
  | some e =>
    if Decimal.value e.digits ≤ greatestExponent then r
    else afterOverrun greatestExponent 0 (e.digits ++ r)
  | none => r

/-- Reads a number whose sign has been read. -/
def readNumber (negative : Bool) (s : List Char) : Except Fault (Number × List Char) :=
  match numberParts s with
  | .error e => .error e
  | .ok (p, r) =>
    match p.value? negative with
    | some n => .ok (n, r)
    | none => .error ⟨.numberOutOfRange, p.stop r, 0⟩

theorem readNumber_length_lt {negative : Bool} {s r : List Char} {n : Number}
    (h : readNumber negative s = .ok (n, r)) : r.length < s.length := by
  unfold readNumber at h
  split at h
  · contradiction
  · rename_i hp
    split at h
    · injection h with h; injection h with _ h; subst h
      exact numberParts_length_lt hp
    · contradiction

/-- Skips a number whose sign has been read. Where digits are missing the text is at fault, also
when it ends there. -/
def skipNumber (s : List Char) : Except Fault (List Char) :=
  match numberParts s with
  | .ok (_, r) => .ok r
  | .error e => .error ⟨.invalidNumber, e.rest, 1⟩

theorem skipNumber_length_lt {s r : List Char} (h : skipNumber s = .ok r) :
    r.length < s.length := by
  unfold skipNumber at h
  split at h
  · rename_i hp
    injection h with h; subst h
    exact numberParts_length_lt hp
  · contradiction

/-! ### Scalars -/

/-- Reads `null`, `true`, `false`, a string or a number. -/
def readScalar : List Char → Except Fault (Json × List Char)
  | [] => .error ⟨.endInValue, [], 0⟩
  | 'n' :: r => (word ['u', 'l', 'l'] r).map fun r ↦ (.null, r)
  | 't' :: r => (word ['r', 'u', 'e'] r).map fun r ↦ (.bool true, r)
  | 'f' :: r => (word ['a', 'l', 's', 'e'] r).map fun r ↦ (.bool false, r)
  | '"' :: r => (stringTail [] r).map fun (cs, r) ↦ (.string (String.ofList cs), r)
  | '-' :: r => (readNumber true r).map fun (n, r) ↦ (.number n, r)
  | c :: r =>
    if c.isDigit then (readNumber false (c :: r)).map fun (n, r) ↦ (.number n, r)
    else .error (.peek .expectedValue (c :: r))

theorem readScalar_length_lt {s r : List Char} {v : Json} (h : readScalar s = .ok (v, r)) :
    r.length < s.length := by
  unfold readScalar at h
  split at h
  case h_1 => contradiction
  case h_2 r' | h_3 r' | h_4 r' =>
    obtain ⟨r'', hw, h⟩ := exists_of_map_eq_ok h
    injection h with _ h; subst h
    exact Nat.lt_succ_of_le (word_length_le hw)
  case h_5 r' =>
    obtain ⟨⟨cs, r''⟩, hw, h⟩ := exists_of_map_eq_ok h
    injection h with _ h; subst h
    have := stringTail_length hw
    simp only [List.length_cons, List.length_nil] at this ⊢
    omega
  case h_6 r' =>
    obtain ⟨⟨n, r''⟩, hw, h⟩ := exists_of_map_eq_ok h
    injection h with _ h; subst h
    exact Nat.lt_succ_of_lt (readNumber_length_lt hw)
  case h_7 c r' _ _ _ _ _ =>
    split at h
    · obtain ⟨⟨n, r''⟩, hw, h⟩ := exists_of_map_eq_ok h
      injection h with _ h; subst h
      exact readNumber_length_lt hw
    · contradiction

/-- Skips `null`, `true`, `false`, a string or a number. -/
def skipScalar : List Char → Except Fault (List Char)
  | [] => .error ⟨.endInValue, [], 0⟩
  | 'n' :: r => word ['u', 'l', 'l'] r
  | 't' :: r => word ['r', 'u', 'e'] r
  | 'f' :: r => word ['a', 'l', 's', 'e'] r
  | '"' :: r => skipString r
  | '-' :: r => skipNumber r
  | c :: r =>
    if c.isDigit then skipNumber (c :: r) else .error (.peek .expectedValue (c :: r))

theorem skipScalar_length_lt {s r : List Char} (h : skipScalar s = .ok r) :
    r.length < s.length := by
  unfold skipScalar at h
  split at h
  case h_1 => contradiction
  case h_2 | h_3 | h_4 => exact Nat.lt_succ_of_le (word_length_le h)
  case h_5 => exact Nat.lt_succ_of_lt (skipString_length_lt h)
  case h_6 => exact Nat.lt_succ_of_lt (skipNumber_length_lt h)
  case h_7 =>
    split at h
    · exact skipNumber_length_lt h
    · contradiction

/-- The fault of a reader that wants something other than the value ahead. A scalar is read to be
shown, a container is only named. -/
def wrongType (expected : String) (s : List Char) : Fault :=
  match s with
  | '[' :: _ => ⟨.mismatch (.wrongType .sequence expected), s, 0⟩
  | '{' :: _ => ⟨.mismatch (.wrongType .map expected), s, 0⟩
  | _ =>
    match readScalar s with
    | .ok (v, r) => ⟨.mismatch (.wrongType v.found expected), r, 0⟩
    | .error e => e

/-- Where an object is left after a mismatch inside it: past its end, if that comes next. -/
def afterObject (s : List Char) : List Char :=
  match skipSpace s with
  | '}' :: r => r
  | r => r

/-- Where an array is left after a mismatch inside it: past its end or the next comma. -/
def afterArray (s : List Char) : List Char :=
  match skipSpace s with
  | ']' :: r => r
  | ',' :: r => skipSpace r
  | r => r

/-- Reads a member's name, whose opening quote has been read, and the colon after it. -/
def memberName (s : List Char) : Except Fault (List Char × List Char) :=
  match stringTail [] s with
  | .error e => .error e
  | .ok (name, r) =>
    match skipSpace r with
    | [] => .error ⟨.endInObject, [], 0⟩
    | ':' :: r => .ok (name, r)
    | r => .error (.peek .expectedColon r)

theorem memberName_length_lt {s r name : List Char} (h : memberName s = .ok (name, r)) :
    r.length < s.length := by
  unfold memberName at h
  split at h
  · contradiction
  · rename_i r' hs
    have h₁ := stringTail_length hs
    have h₂ := skipSpace_length_le r'
    split at h
    · contradiction
    · rename_i hr
      injection h with h; injection h with _ h; subst h
      rw [hr] at h₂
      simp only [List.length_cons, List.length_nil] at h₁ h₂
      omega
    · contradiction

end LspClient.Json
