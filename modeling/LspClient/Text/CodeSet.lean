import LspClient.Text.Blank

/-!
# Sets of code points as text

A table of a Unicode property is kept as text, in the notation such tables are published in:
hexadecimal code points and ranges with both ends included, in ascending order and parted by white
space.
-/

namespace LspClient.Text

/-- The value of a hexadecimal digit in either case. -/
def hexValue? (c : Char) : Option Nat :=
  if '0' ≤ c ∧ c ≤ '9' then some (c.toNat - '0'.toNat)
  else if 'a' ≤ c ∧ c ≤ 'f' then some (c.toNat - 'a'.toNat + 10)
  else if 'A' ≤ c ∧ c ≤ 'F' then some (c.toNat - 'A'.toNat + 10)
  else none

/-- The number that hexadecimal digits stand for; other characters count as zero. -/
def hexNumber (cs : List Char) : Nat :=
  cs.foldl (fun n c ↦ 16 * n + (hexValue? c).getD 0) 0

/-- The words of a text, parted by white space. -/
def words (s : String) : List (List Char) :=
  splitWords isBlank s.toList

/-- A set of code points, as ranges with both ends included. -/
structure CodeSet where
  ranges : List (Nat × Nat)

namespace CodeSet

/-- The range that one word of a table stands for. -/
def range (word : List Char) : Nat × Nat :=
  let first := word.takeWhile (· ≠ '-')
  match word.drop first.length with
  | [] => (hexNumber first, hexNumber first)
  | _ :: last => (hexNumber first, hexNumber last)

/-- The set that a table stands for. -/
def ofTable (table : String) : CodeSet :=
  ⟨(words table).map range⟩

/-- Whether a character belongs to a set. -/
def contains (set : CodeSet) (c : Char) : Bool :=
  set.ranges.any fun (first, last) ↦ first ≤ c.toNat && c.toNat ≤ last

end CodeSet

end LspClient.Text
