import LspClient.Decimal.Whole
import LspClient.Text.CodeSet

/-!
# Addresses of 32 bits

A host whose last part is a number is an address. It has up to four parts, in decimal, octal or
hexadecimal; the last one fills all the bytes that the others leave.
-/

namespace LspClient.Url

/-- An address of 32 bits. -/
structure Ipv4 where
  bits : UInt32
  deriving DecidableEq, Repr

/-- The parts of a text between the occurrences of a character. -/
def splitAt (sep : Char) (s : List Char) : List (List Char) :=
  s.foldr
    (fun c parts ↦ if c = sep then [] :: parts else
      match parts with
      | [] => [[c]]
      | part :: parts => (c :: part) :: parts)
    [[]]

namespace Ipv4

/-- The value of a digit in a base, if it is one. -/
def digit? (base : Nat) (c : Char) : Option Nat :=
  (Text.hexValue? c).filter (· < base)

/-- The number that digits in a base stand for. -/
def number? (base : Nat) (cs : List Char) : Option Nat :=
  cs.foldl (fun n c ↦ n.bind fun n ↦ (digit? base c).map (base * n + ·)) (some 0)

/-- The number that a part of an address stands for. A bare mark of a base stands for zero. -/
def part? : List Char → Option Nat
  | [] => none
  | '0' :: 'x' :: ds | '0' :: 'X' :: ds => number? 16 ds
  | ['0'] => some 0
  | '0' :: ds => number? 8 ds
  | ds => number? 10 ds

/-- The parts of a domain, less an empty one at its end. -/
def parts (domain : List Char) : List (List Char) :=
  let all := splitAt '.' domain
  if all.getLast? = some [] then all.dropLast else all

/-- Whether a domain has to be an address: its last part is a number, or looks like one. -/
def isMeant (domain : List Char) : Bool :=
  match (parts domain).getLast? with
  | none | some [] => false
  | some last => last.all Char.isDigit || (part? last).isSome

/-- The bits that the numbers of an address stand for, if each is in its range. -/
def join : (bytesLeft : Nat) → List Nat → Option Nat
  | _, [] => none
  | bytesLeft, [n] => if n < Nat.pow 256 bytesLeft then some n else none
  | bytesLeft, n :: ns =>
    if n < 256 then (join (bytesLeft - 1) ns).map (n * Nat.pow 256 (bytesLeft - 1) + ·) else none

/-- The address that a domain is. -/
def parse (domain : List Char) : Option Ipv4 :=
  let parts := parts domain
  if 4 < parts.length then none
  else do
    let numbers ← parts.mapM part?
    let bits ← join 4 numbers
    return ⟨.ofNat bits⟩

/-- An address as it is written: four numbers in decimal. -/
def shown (a : Ipv4) : List Char :=
  let n := a.bits.toNat
  [n >>> 24, n >>> 16 % 256, n >>> 8 % 256].flatMap (fun k ↦ Decimal.digits k ++ ['.']) ++
    Decimal.digits (n % 256)

end Ipv4

end LspClient.Url
