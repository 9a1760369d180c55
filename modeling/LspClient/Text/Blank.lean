/-!
# White space

The characters that Unicode calls white space, and trimming by them. A line of a stream, a header's
name and value, a method name and a command line are all cut by this one class.
-/

namespace LspClient.Text

/-- The characters with the Unicode property White_Space. -/
def isBlank (c : Char) : Bool :=
  let n := c.toNat
  (0x09 ≤ n && n ≤ 0x0D) || n == 0x20 || n == 0x85 || n == 0xA0 || n == 0x1680 ||
    (0x2000 ≤ n && n ≤ 0x200A) || n == 0x2028 || n == 0x2029 || n == 0x202F || n == 0x205F ||
    n == 0x3000

/-- The text from its first character that is not white space. -/
def trimStart (s : List Char) : List Char :=
  s.dropWhile isBlank

/-- The text up to its last character that `p` does not hold of. -/
def dropEndWhile (p : Char → Bool) (s : List Char) : List Char :=
  (s.reverse.dropWhile p).reverse

/-- The text without white space at either end. -/
def trim (s : List Char) : List Char :=
  dropEndWhile isBlank (trimStart s)

/-- A text of white space only, the empty text included. -/
def isAllBlank (s : String) : Bool :=
  s.toList.all isBlank

theorem length_dropWhile_lt {p q : Char → Bool} {s rest : List Char} {c : Char}
    (h : s.dropWhile p = c :: rest) : (rest.dropWhile q).length < s.length := by
  have h₁ := (List.dropWhile_sublist p (l := s)).length_le
  have h₂ := (List.dropWhile_sublist q (l := rest)).length_le
  rw [h, List.length_cons] at h₁
  omega

/-- The non-empty runs of characters that `p` does not hold of, in order. -/
def splitWords (p : Char → Bool) (s : List Char) : List (List Char) :=
  match h : s.dropWhile p with
  | [] => []
  | c :: rest =>
    have : (rest.dropWhile (!p ·)).length < s.length := length_dropWhile_lt h
    (c :: rest.takeWhile (!p ·)) :: splitWords p (rest.dropWhile (!p ·))
  termination_by s.length

/-- Splits at the first occurrence of a character, which belongs to neither part. -/
def splitAtFirst (sep : Char) : List Char → Option (List Char × List Char)
  | [] => none
  | c :: rest =>
    if c = sep then some ([], rest)
    else (splitAtFirst sep rest).map fun (before, after) ↦ (c :: before, after)

/-- The text with every occurrence of a pattern replaced, scanning from the left. An empty pattern
occurs nowhere. -/
def replaceAll (pattern replacement : List Char) (s : List Char) : List Char :=
  match s with
  | [] => []
  | c :: rest =>
    if pattern ≠ [] ∧ pattern.isPrefixOf (c :: rest) then
      replacement ++ replaceAll pattern replacement ((c :: rest).drop pattern.length)
    else c :: replaceAll pattern replacement rest
  termination_by s.length
  decreasing_by
    · rename_i h
      have : 0 < pattern.length := List.length_pos_iff.2 h.1
      simp only [List.length_drop, List.length_cons]
      omega
    · simp

/-- Equality of ASCII letters in either case, and of every other character with itself. -/
def equalIgnoringAsciiCase (s t : List Char) : Bool :=
  s.map Char.toLower == t.map Char.toLower

end LspClient.Text
