import LspClient.Decimal.Binary64

/-!
# The shortest decimal of a binary64 number

Among the decimals that read back as a given magnitude, `Binary64.shortest` takes one on the
coarsest grid of powers of ten that has any, and of those the nearest. The magnitudes that read back
form an interval around the exact value; its ends belong to it when the rank is even, because a half
goes to the even rank.

How such a decimal is written (where positional notation ends, what an exponent looks like) is a
decision of the text format and stands in one record, `DecimalStyle`.
-/

namespace LspClient

namespace Binary64

/-- Whether `c` times ten to the `p` rounds to the magnitude of rank `r`. Both sides are compared
after multiplication by four times the denominators. -/
def readsBack (r c : Nat) (p : Int) : Bool :=
  let m := significand r
  let e := exponent r
  let unit := Nat.pow 2 e.toNat * Nat.pow 10 (-p).toNat
  let exact := 4 * m * unit
  let candidate := 4 * c * Nat.pow 10 p.toNat * Nat.pow 2 (-e).toNat
  let above := 2 * unit
  let below := if m = binade ∧ -1074 < e then unit else 2 * unit
  if r % 2 = 0 then exact ≤ candidate + below ∧ candidate ≤ exact + above
  else exact < candidate + below ∧ candidate < exact + above

/-- The multiple of ten to the `p` nearest to the magnitude of rank `r` among its two neighbours on
that grid, if one of them reads back. -/
def onGrid (r : Nat) (p : Int) : Option Nat :=
  let e := exponent r
  let num := significand r * Nat.pow 2 e.toNat * Nat.pow 10 (-p).toNat
  let den := Nat.pow 2 (-e).toNat * Nat.pow 10 p.toNat
  let low := num / den
  let rest := num % den
  let nearer :=
    if 2 * rest > den ∨ (2 * rest = den ∧ low % 2 = 1) then [low + 1, low] else [low, low + 1]
  nearer.find? fun c ↦ c ≠ 0 && readsBack r c p

/-- Searches the grids of ten to the `p`, then finer ones, for at most `tries` of them. -/
def firstGrid (r : Nat) : (tries : Nat) → (p : Int) → Option (Nat × Int)
  | 0, _ => none
  | tries + 1, p =>
    match onGrid r p with
    | some c => some (c, p)
    | none => firstGrid r tries (p - 1)

/-- The shortest decimal that reads back as a positive magnitude: its digits as a number, and the
power of ten of the last of them. -/
def shortest (r : Nat) : Nat × Int :=
  let top : Int := ((significand r).log2 + exponent r) * 30103 / 100000 + 2
  (firstGrid r 24 top).getD (significand r, 0)

end Binary64

/-- How a decimal is written. -/
structure DecimalStyle where
  /-- The least exponent of the leading digit that is written positionally. -/
  leastPlain : Int
  /-- The greatest exponent of the leading digit that is written positionally. -/
  greatestPlain : Int
  /-- What stands after a whole number. -/
  wholeMark : List Char
  /-- What stands before an exponent of ten that is not negative. -/
  exponentMark : List Char
  /-- What stands before the digits of a negative exponent of ten. -/
  negativeExponentMark : List Char

namespace DecimalStyle

/-- Writes digits whose last one has the exponent `p`. -/
def render (style : DecimalStyle) (ds : List Char) (p : Int) : List Char :=
  let lead : Int := ds.length - 1 + p
  if style.leastPlain ≤ lead ∧ lead ≤ style.greatestPlain then
    if 0 ≤ p then ds ++ List.replicate p.toNat '0' ++ style.wholeMark
    else if 0 ≤ lead then ds.take (lead.toNat + 1) ++ '.' :: ds.drop (lead.toNat + 1)
    else '0' :: '.' :: (List.replicate (-lead - 1).toNat '0' ++ ds)
  else
    let mantissa := if ds.length ≤ 1 then ds else ds.take 1 ++ '.' :: ds.drop 1
    mantissa ++
      (if lead < 0 then style.negativeExponentMark else style.exponentMark) ++
        Decimal.digits lead.natAbs

/-- Writes a finite number by its shortest decimal. -/
def renderBinary64 (style : DecimalStyle) (x : Binary64) : List Char :=
  let body :=
    if x.rank.val = 0 then '0' :: style.wholeMark
    else style.render (Decimal.digits (Binary64.shortest x.rank).1) (Binary64.shortest x.rank).2
  if x.negative then '-' :: body else body

end DecimalStyle

end LspClient
