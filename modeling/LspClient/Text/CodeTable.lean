import LspClient.Text.Blank
import LspClient.Text.CodeSet

/-!
# Values of code points as text

A table that gives a value to some code points is kept as text like a set of them: each word is a
code point or a range, a colon, and the value that it has.
-/

namespace LspClient.Text

/-- Values for ranges of code points, with both ends included. -/
structure CodeTable (α : Type) where
  entries : List ((Nat × Nat) × α)

namespace CodeTable

variable {α : Type}

/-- The entry that one word of a table stands for. -/
def entry (value : List Char → α) (word : List Char) : (Nat × Nat) × α :=
  match splitAtFirst ':' word with
  | some (range, v) => (CodeSet.range range, value v)
  | none => (CodeSet.range word, value [])

/-- The values that a table gives, each read by `value`. -/
def ofTable (value : List Char → α) (table : String) : CodeTable α :=
  ⟨(words table).map (entry value)⟩

/-- The value of a character, if it has one. -/
def get? (t : CodeTable α) (c : Char) : Option α :=
  (t.entries.find? fun ((first, last), _) ↦ first ≤ c.toNat && c.toNat ≤ last).map (·.2)

end CodeTable

/-- The characters whose code points are written in hexadecimal and parted by points. -/
def hexChars (s : List Char) : List Char :=
  match splitAtFirst '.' s with
  | some (first, rest) => .ofNat (hexNumber first) :: (hexRest rest.length rest)
  | none => [.ofNat (hexNumber s)]
where
  /-- The characters of the words that are left, of which there are at most `bound`. -/
  hexRest : Nat → List Char → List Char
    | 0, _ => []
    | bound + 1, s =>
      match splitAtFirst '.' s with
      | some (first, rest) => .ofNat (hexNumber first) :: hexRest bound rest
      | none => [.ofNat (hexNumber s)]

end LspClient.Text
