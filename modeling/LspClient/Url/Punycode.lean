/-!
# Punycode

Labels of a domain in ASCII. The ASCII characters of a label come first, then a hyphen if there were
any, and then where the others go: for each, in ascending order, how many steps lie between it and
the one before, a step being one place in the label or, past its end, the next code point. Steps are
written as digits in base 36 whose thresholds follow a bias, and the bias follows the steps.
-/

namespace LspClient.Url.Punycode

/-- The digit of a value below 36. -/
def digitChar (d : Nat) : Char :=
  if d < 26 then .ofNat ('a'.toNat + d) else .ofNat ('0'.toNat + (d - 26))

/-- The value of a digit. -/
def digitValue? (c : Char) : Option Nat :=
  if 'a' ≤ c ∧ c ≤ 'z' then some (c.toNat - 'a'.toNat)
  else if c.isDigit then some (c.toNat - '0'.toNat + 26)
  else none

/-- The threshold of the digit at a place, places counting in steps of 36. -/
def threshold (bias place : Nat) : Nat :=
  if place ≤ bias then 1 else if bias + 26 ≤ place then 26 else place - bias

theorem threshold_pos (bias place : Nat) : 1 ≤ threshold bias place := by
  unfold threshold; split
  · exact Nat.le_refl 1
  · split <;> omega

/-- How often a number can be divided by 35 before it is at most 455, and what is then left. -/
def scaleDown (n : Nat) : Nat × Nat :=
  if 455 < n then
    let (times, left) := scaleDown (n / 35)
    (times + 1, left)
  else (0, n)
  termination_by n
  decreasing_by omega

/-- The bias after a number of steps that led to the character of rank `count`. -/
def adapt (steps count : Nat) (first : Bool) : Nat :=
  let n := if first then steps / 700 else steps / 2
  let (times, left) := scaleDown (n + n / count)
  36 * times + 36 * left / (left + 38)

/-! ### Writing -/

/-- A number of steps as digits. -/
def encodeSteps (bias place n : Nat) : List Char :=
  let t := threshold bias place
  if n < t then [digitChar n]
  else digitChar (t + (n - t) % (36 - t)) :: encodeSteps bias (place + 36) ((n - t) / (36 - t))
  termination_by n
  decreasing_by
    have h₁ := threshold_pos bias place
    have h₂ := Nat.div_le_self (n - threshold bias place) (36 - threshold bias place)
    omega

/-- How far the writing of a label has come. -/
structure Writing where
  /-- The characters that have been written. -/
  count : Nat
  steps : Nat
  bias : Nat
  /-- What has been written, in pieces with the latest first. -/
  written : List (List Char)

/-- Passes one character of the label while those of code point `n` are written. -/
def pass (basic n : Nat) (w : Writing) (c : Char) : Writing :=
  if c.toNat < n then { w with steps := w.steps + 1 }
  else if c.toNat = n then
    { count := w.count + 1
      steps := 0
      bias := adapt w.steps (w.count + 1) (w.count == basic)
      written := encodeSteps w.bias 36 w.steps :: w.written }
  else w

/-- Writes the characters whose code points are listed, `n` being the first not yet passed. -/
def writeAll (label : List Char) (basic : Nat) : (n : Nat) → List Nat → Writing → Writing
  | _, [], w => w
  | n, m :: ms, w =>
    let w := label.foldl (pass basic m) { w with steps := w.steps + (m - n) * (w.count + 1) }
    writeAll label basic (m + 1) ms { w with steps := w.steps + 1 }

/-- A list without repetitions, given in ascending order. -/
def withoutRepeats : List Nat → List Nat
  | [] => []
  | [n] => [n]
  | n :: m :: ns => if n = m then withoutRepeats (m :: ns) else n :: withoutRepeats (m :: ns)

/-- Whether a character is ASCII. -/
def isBasic (c : Char) : Bool :=
  c.toNat < 0x80

/-- The form of a label in ASCII. -/
def encode (label : List Char) : List Char :=
  let basic := label.filter isBasic
  let others := (label.filter (fun c ↦ !isBasic c)).map Char.toNat
  let w := writeAll label basic.length 0x80 (withoutRepeats (others.mergeSort (· ≤ ·)))
    ⟨basic.length, 0, 72, []⟩
  basic ++ (if basic = [] then [] else ['-']) ++ w.written.reverse.flatten

/-! ### Reading -/

/-- The number of steps that the digits at the front stand for, and the text after them. -/
def decodeSteps (bias : Nat) :
    (place weight sum : Nat) → (s : List Char) →
      Option (Nat × { r : List Char // r.length < s.length })
  | _, _, _, [] => none
  | place, weight, sum, c :: rest =>
    match digitValue? c with
    | none => none
    | some d =>
      let sum := sum + d * weight
      let t := threshold bias place
      if d < t then some (sum, ⟨rest, Nat.lt_succ_self _⟩)
      else
        (decodeSteps bias (place + 36) (weight * (36 - t)) sum rest).map fun (n, r) ↦
          (n, ⟨r.1, Nat.lt_succ_of_lt r.2⟩)

/-- The character of a code point. -/
def char? (n : Nat) : Option Char :=
  if n.isValidChar then some (.ofNat n) else none

/-- Puts the characters that the text tells of into a label. Steps are counted from code point `n`
and the place `i`. -/
def insertAll (label : List Char) (n i bias : Nat) (first : Bool) (s : List Char) :
    Option (List Char) :=
  match s with
  | [] => some label
  | c :: rest =>
    match decodeSteps bias 36 1 0 (c :: rest) with
    | none => none
    | some (steps, r) =>
      let count := label.length + 1
      let n := n + (i + steps) / count
      let i := (i + steps) % count
      match char? n with
      | none => none
      | some new =>
        let label := label.take i ++ new :: label.drop i
        insertAll label n (i + 1) (adapt steps count first) false r.1
  termination_by s.length
  decreasing_by exact r.2

/-- The label whose form in ASCII is given. -/
def decode (s : List Char) : Option (List Char) :=
  let tail := s.reverse.takeWhile (· ≠ '-')
  let basic := (s.take (s.length - tail.length)).dropLast
  if basic = [] then insertAll [] 0x80 0 72 true s
  else insertAll basic 0x80 0 72 true tail.reverse

end LspClient.Url.Punycode
