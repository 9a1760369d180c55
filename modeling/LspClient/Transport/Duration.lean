import LspClient.Decimal.Whole

/-!
# Durations

How a message shows a time in milliseconds: in whole milliseconds below a second, and from there on
in seconds, with a fraction only where there is one.
-/

namespace LspClient.Transport

/-- The digits after the point of so many thousandths, without trailing zeros. -/
def thousandths (n : Nat) : List Char :=
  let ds := Decimal.digits n
  ((List.replicate (3 - ds.length) '0' ++ ds).reverse.dropWhile (· == '0')).reverse

/-- A time in milliseconds as a message shows it. -/
def durationText (ms : Nat) : String :=
  if ms = 0 then "0ns"
  else if ms < 1000 then s!"{Decimal.text ms}ms"
  else if ms % 1000 = 0 then s!"{Decimal.text (ms / 1000)}s"
  else s!"{Decimal.text (ms / 1000)}.{String.ofList (thousandths (ms % 1000))}s"

end LspClient.Transport
