import LspClient.Json.Token

/-!
# The grammar of JSON texts

Which texts are JSON, apart from any reader. There may be blanks between tokens. The characters
inside a string stand for themselves or are escaped, and an escape only has to have its form
(`IsLiteral`). Where it matters what a string says, `Spells` relates its characters to the text
between the quotes, and surrogates must come in pairs.
-/

namespace LspClient.Json

/-- Blanks between tokens. -/
structure Blank where
  chars : List Char
  isSpace : ∀ c ∈ chars, Json.isSpace c = true

/-- No blanks. -/
def Blank.none : Blank where
  chars := []
  isSpace := List.forall_mem_nil _

/-! ### Numbers -/

/-- One or more digits. -/
def IsDigits (s : List Char) : Prop :=
  s ≠ [] ∧ ∀ c ∈ s, c.isDigit = true

/-- The digits before the fraction, without leading zeros. -/
inductive IsInteger : List Char → Prop where
  | zero : IsInteger ['0']
  | digits {c : Char} {s : List Char} (hne : c ≠ '0') (h : ∀ d ∈ c :: s, d.isDigit = true) :
      IsInteger (c :: s)

/-- A fraction, or none. -/
inductive IsFraction : List Char → Prop where
  | none : IsFraction []
  | some {s : List Char} (h : IsDigits s) : IsFraction ('.' :: s)

/-- An exponent, or none. -/
inductive IsExponent : List Char → Prop where
  | none : IsExponent []
  | some {e : Char} {sign s : List Char} (he : e = 'e' ∨ e = 'E')
      (hsign : sign ∈ [[], ['+'], ['-']]) (h : IsDigits s) : IsExponent (e :: (sign ++ s))

/-- A number without its sign. -/
inductive IsUnsigned : List Char → Prop where
  | mk {integer fraction exponent : List Char} (hinteger : IsInteger integer)
      (hfraction : IsFraction fraction) (hexponent : IsExponent exponent) :
      IsUnsigned (integer ++ (fraction ++ exponent))

/-! ### Strings -/

/-- The escapes of one letter, each with the character that it stands for. -/
def shortEscapes : List (Char × Char) :=
  [('"', '"'), ('\\', '\\'), ('/', '/'), ('b', '\x08'), ('f', '\x0C'), ('n', '\n'), ('r', '\r'),
    ('t', '\t')]

/-- A character that stands for itself inside a string. -/
def IsUnescaped (c : Char) : Prop :=
  c ≠ '"' ∧ c ≠ '\\' ∧ 0x20 ≤ c.toNat

/-- Four hexadecimal digits and their value. -/
inductive IsHex : List Char → Nat → Prop where
  | mk {a b c d : Char} {i j k l : Nat} (ha : Text.hexValue? a = some i)
      (hb : Text.hexValue? b = some j) (hc : Text.hexValue? c = some k)
      (hd : Text.hexValue? d = some l) :
      IsHex [a, b, c, d] (i * 0x1000 + j * 0x100 + k * 0x10 + l)

/-- What may stand between the quotes of a string. -/
inductive IsLiteral : List Char → Prop where
  | nil : IsLiteral []
  | char {c : Char} {s : List Char} (hc : IsUnescaped c) (h : IsLiteral s) : IsLiteral (c :: s)
  | escape {e : Char × Char} {s : List Char} (he : e ∈ shortEscapes) (h : IsLiteral s) :
      IsLiteral ('\\' :: e.1 :: s)
  | unicode {n : Nat} {x s : List Char} (hx : IsHex x n) (h : IsLiteral s) :
      IsLiteral ('\\' :: 'u' :: (x ++ s))

/-- The characters that a string says, given what stands between its quotes. -/
inductive Spells : List Char → List Char → Prop where
  | nil : Spells [] []
  | char {c : Char} {cs s : List Char} (hc : IsUnescaped c) (h : Spells cs s) :
      Spells (c :: cs) (c :: s)
  | escape {e : Char × Char} {cs s : List Char} (he : e ∈ shortEscapes) (h : Spells cs s) :
      Spells (e.2 :: cs) ('\\' :: e.1 :: s)
  | unicode {n : Nat} {x cs s : List Char} (hx : IsHex x n) (hn : n < 0xD800 ∨ 0xDFFF < n)
      (h : Spells cs s) : Spells (.ofNat n :: cs) ('\\' :: 'u' :: (x ++ s))
  | pair {high low : Nat} {x y cs s : List Char} (hx : IsHex x high) (hy : IsHex y low)
      (hhigh : 0xD800 ≤ high ∧ high ≤ 0xDBFF) (hlow : 0xDC00 ≤ low ∧ low ≤ 0xDFFF)
      (h : Spells cs s) :
      Spells (.ofNat (0x10000 + (high - 0xD800) * 0x400 + (low - 0xDC00)) :: cs)
        ('\\' :: 'u' :: (x ++ '\\' :: 'u' :: (y ++ s)))

/-- A text that says something is a string. -/
theorem Spells.isLiteral {cs s : List Char} (h : Spells cs s) : IsLiteral s := by
  induction h with
  | nil => exact .nil
  | char hc _ ih => exact .char hc ih
  | escape he _ ih => exact .escape he ih
  | unicode hx _ _ ih => exact .unicode hx ih
  | pair hx hy _ _ _ ih => exact .unicode hx (.unicode hy ih)

/-! ### Values -/

/-- A member up to the end of its value, with blanks before and after the name and before the
value. -/
def memberText (before : Blank) (name : List Char) (after between : Blank) (value : List Char) :
    List Char :=
  before.chars ++ '"' :: (name ++ '"' :: (after.chars ++ ':' :: (between.chars ++ value)))

/-- The text of a member, taken apart at the quotes and at the colon. -/
theorem memberText_append (before : Blank) (name : List Char) (after between : Blank)
    (value behind : List Char) :
    memberText before name after between value ++ behind = before.chars ++ '"' :: (name ++ '"' ::
      (after.chars ++ ':' :: (between.chars ++ (value ++ behind)))) := by
  simp only [memberText, List.append_assoc, List.cons_append]

/-- What the grammar has rules for. -/
inductive Phrase where
  | value
  /-- The elements of an array that has some, without the brackets. -/
  | elements
  /-- The members of an object that has some, without the braces. -/
  | members

/-- The texts that the grammar derives. -/
inductive Derives : Phrase → List Char → Prop where
  | nullWord : Derives .value ['n', 'u', 'l', 'l']
  | trueWord : Derives .value ['t', 'r', 'u', 'e']
  | falseWord : Derives .value ['f', 'a', 'l', 's', 'e']
  | natural {s : List Char} (h : IsUnsigned s) : Derives .value s
  | negative {s : List Char} (h : IsUnsigned s) : Derives .value ('-' :: s)
  | string {s : List Char} (h : IsLiteral s) : Derives .value ('"' :: (s ++ ['"']))
  | noElements (b : Blank) : Derives .value ('[' :: (b.chars ++ [']']))
  | array {s : List Char} (h : Derives .elements s) : Derives .value ('[' :: (s ++ [']']))
  | noMembers (b : Blank) : Derives .value ('{' :: (b.chars ++ ['}']))
  | object {s : List Char} (h : Derives .members s) : Derives .value ('{' :: (s ++ ['}']))
  | element (before : Blank) {s : List Char} (h : Derives .value s) (after : Blank) :
      Derives .elements (before.chars ++ (s ++ after.chars))
  | elements (before : Blank) {s : List Char} (h : Derives .value s) (after : Blank) {t : List Char}
      (ht : Derives .elements t) :
      Derives .elements (before.chars ++ (s ++ (after.chars ++ ',' :: t)))
  | member (before : Blank) {name : List Char} (hname : IsLiteral name) (after between : Blank)
      {s : List Char} (h : Derives .value s) (behind : Blank) :
      Derives .members (memberText before name after between s ++ behind.chars)
  | members (before : Blank) {name : List Char} (hname : IsLiteral name) (after between : Blank)
      {s : List Char} (h : Derives .value s) (behind : Blank) {t : List Char}
      (ht : Derives .members t) :
      Derives .members (memberText before name after between s ++ (behind.chars ++ ',' :: t))

/-- The members of an object that has some, each with the characters of its name and the text of
its value. -/
inductive HasMembers : List (List Char × List Char) → List Char → Prop where
  | one (before : Blank) {cs name : List Char} (hname : Spells cs name) (after between : Blank)
      {s : List Char} (h : Derives .value s) (behind : Blank) :
      HasMembers [(cs, s)] (memberText before name after between s ++ behind.chars)
  | cons (before : Blank) {cs name : List Char} (hname : Spells cs name) (after between : Blank)
      {s : List Char} (h : Derives .value s) (behind : Blank) {ms : List (List Char × List Char)}
      {t : List Char} (ht : HasMembers ms t) :
      HasMembers ((cs, s) :: ms)
        (memberText before name after between s ++ (behind.chars ++ ',' :: t))

end LspClient.Json
