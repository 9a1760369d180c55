import LspClient.Decimal.Whole

/-!
# Finite numbers of the binary64 format

A finite number is a sign and the *rank* of its magnitude: how many smaller magnitudes the format
has. Ranks below `2 ^ 52` are the subnormal magnitudes; from there on every `2 ^ 52` ranks double
the spacing. The rank is the format's bit pattern without the sign, so equality is decidable and
ordering magnitudes is ordering ranks.

`Binary64.ofRatio` rounds a quotient to the nearest magnitude, a half to the even rank. Everything
else is built on it: products and quotients are rounded once, and a decimal with an exponent is read
by rounding its whole significand and scaling by rounded powers of ten.
-/

namespace LspClient

/-- How many magnitudes lie between a power of two and the next, the lower one counted: two to the
52. -/
def Binary64.binade : Nat :=
  4503599627370496

/-- How many magnitudes are finite. -/
def Binary64.magnitudes : Nat :=
  2047 * binade

/-- A finite number of the binary64 format. -/
structure Binary64 where
  /-- Whether the sign bit is set; both zeros exist. -/
  negative : Bool
  /-- The number of smaller magnitudes. -/
  rank : Fin Binary64.magnitudes
  deriving DecidableEq, Repr

namespace Binary64

/-- The magnitude as a whole significand times a power of two. -/
def significand (r : Nat) : Nat :=
  if r < binade then r else binade + r % binade

/-- The power of two that goes with `significand`. -/
def exponent (r : Nat) : Int :=
  if r < binade then -1074 else (r / binade : Nat) - 1075

/-- The nearest whole number to `num / den`, a half going to the even one. -/
def roundDiv (num den : Nat) : Nat :=
  let q := num / den
  let r := num % den
  if 2 * r > den ∨ (2 * r = den ∧ q % 2 = 1) then q + 1 else q

/-- The quotient `num / den` times `2 ^ -e`, as a numerator and a denominator. -/
def scale (num den : Nat) (e : Int) : Nat × Nat :=
  if e < 0 then (num * Nat.pow 2 (-e).toNat, den) else (num, den * Nat.pow 2 e.toNat)

/-- The rank of the magnitude nearest to `num / den`; ranks from `magnitudes` on are past the
largest finite one. -/
def rankOfRatio (num den : Nat) : Nat :=
  if num = 0 ∨ den = 0 then 0
  else
    let guess : Int := (num.log2 : Int) - (den.log2 : Int) - 52
    let e := if (scale num den guess).1 < (scale num den guess).2 * binade then guess - 1 else guess
    let e := max e (-1074)
    (e + 1074).toNat * binade + roundDiv (scale num den e).1 (scale num den e).2

/-- The non-negative number nearest to `num / den`, unless it is too large to be finite. -/
def ofRatio (num den : Nat) : Option Binary64 :=
  if h : rankOfRatio num den < magnitudes then some ⟨false, ⟨rankOfRatio num den, h⟩⟩ else none

/-- The positive zero. -/
def zero : Binary64 :=
  ⟨false, ⟨0, by decide⟩⟩

/-- The number with the given sign. -/
def withSign (x : Binary64) (negative : Bool) : Binary64 :=
  { x with negative }

/-- The magnitude as a numerator and a denominator. -/
def ratio (x : Binary64) : Nat × Nat :=
  scale (significand x.rank) 1 (-exponent x.rank)

/-- The rounded product of two magnitudes. -/
def mul (x y : Binary64) : Option Binary64 :=
  ofRatio (x.ratio.1 * y.ratio.1) (x.ratio.2 * y.ratio.2)

/-- The rounded quotient of two magnitudes. -/
def div (x y : Binary64) : Option Binary64 :=
  ofRatio (x.ratio.1 * y.ratio.2) (x.ratio.2 * y.ratio.1)

/-- A whole number, rounded. -/
def ofNat (n : Nat) : Option Binary64 :=
  ofRatio n 1

/-- The largest power of ten that is finite. -/
def largestPower : Nat :=
  308

/-- Divides by ten to the `k`, in one rounded step where that power is finite and else in two. -/
def divPower (x : Binary64) (k : Nat) : Option Binary64 := do
  if k ≤ largestPower then
    x.div (← ofNat (Nat.pow 10 k))
  else
    let y ← x.div (← ofNat (Nat.pow 10 largestPower))
    if y.rank.val = 0 ∨ largestPower < k - largestPower then some zero
    else y.div (← ofNat (Nat.pow 10 (k - largestPower)))

/-- Reads a significand below `2 ^ 64` times ten to the `exponent`: the significand is rounded, then
multiplied or divided by a rounded power of ten. There is no value when the result is not finite. -/
def ofDecimal (significand : Nat) (exponent : Int) : Option Binary64 := do
  let x ← ofNat significand
  if 0 ≤ exponent then
    if largestPower < exponent.toNat then
      if significand = 0 then some x else none
    else x.mul (← ofNat (Nat.pow 10 exponent.toNat))
  else x.divPower (-exponent).toNat

end Binary64

end LspClient
