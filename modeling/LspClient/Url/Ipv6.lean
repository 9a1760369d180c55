import LspClient.Text.Quoted
import LspClient.Url.Ipv4

/-!
# Addresses of 128 bits

Eight pieces of sixteen bits, in hexadecimal and parted by colons. Two colons in a row stand for one
or more pieces that are zero, and the last two pieces may be written as an address of 32 bits.
-/

namespace LspClient.Url

/-- An address of 128 bits, as eight pieces. -/
structure Ipv6 where
  pieces : Vector UInt16 8
  deriving DecidableEq, Repr

namespace Ipv6

/-- A piece: one to four hexadecimal digits. -/
def piece? (cs : List Char) : Option UInt16 :=
  if cs = [] ∨ 4 < cs.length then none else (Ipv4.number? 16 cs).map .ofNat

/-- A decimal number below 256 without leading zeros. -/
def byte? (cs : List Char) : Option Nat :=
  match cs with
  | [] => none
  | '0' :: _ :: _ => none
  | cs => (Ipv4.number? 10 cs).filter (· < 256)

/-- The two pieces that an address of 32 bits stands for. -/
def dotted? (cs : List Char) : Option (List UInt16) :=
  match (splitAt '.' cs).mapM byte? with
  | some [a, b, c, d] => some [.ofNat (256 * a + b), .ofNat (256 * c + d)]
  | _ => none

/-- The pieces that fields stand for, the last of which may be an address of 32 bits. -/
def pieces? : List (List Char) → Option (List UInt16)
  | [] => some []
  | [field] => if field.contains '.' then dotted? field else (piece? field).map ([·])
  | field :: fields => do return (← piece? field) :: (← pieces? fields)

/-- The pieces in a part of an address that has no two colons in a row; none in an empty part. -/
def run? (cs : List Char) : Option (List UInt16) :=
  if cs = [] then some [] else pieces? (splitAt ':' cs)

/-- The text before and after the first two colons in a row. -/
def splitAtGap : List Char → Option (List Char × List Char)
  | ':' :: ':' :: rest => some ([], rest)
  | c :: rest => (splitAtGap rest).map fun (before, after) ↦ (c :: before, after)
  | [] => none

/-- Pieces as an address, if there are eight of them. -/
def ofPieces? (ps : List UInt16) : Option Ipv6 :=
  if h : ps.length = 8 then some ⟨⟨ps.toArray, h⟩⟩ else none

/-- The address that a text stands for. -/
def parse (cs : List Char) : Option Ipv6 :=
  match splitAtGap cs with
  | none => do ofPieces? (← run? cs)
  | some (before, after) => do
    if before.contains '.' then none
    let before ← run? before
    let after ← run? after
    let zeros := 8 - (before.length + after.length)
    if zeros = 0 then none else ofPieces? (before ++ List.replicate zeros 0 ++ after)

/-! ### Writing -/

/-- How many pieces at the front are zero. -/
def zerosAtFront (ps : List UInt16) : Nat :=
  (ps.takeWhile (· == 0)).length

/-- The place and the length of the first longest run of zeros, from the place `start`. -/
def longestZeros : (start : Nat) → List UInt16 → Nat × Nat
  | start, [] => (start, 0)
  | start, p :: ps =>
    let here := zerosAtFront (p :: ps)
    let later := longestZeros (start + 1) ps
    if later.2 ≤ here then (start, here) else later

/-- Pieces in hexadecimal, parted by colons. -/
def joined (ps : List UInt16) : List Char :=
  (ps.map fun p ↦ Nat.toDigits 16 p.toNat).intersperse [':'] |>.flatten

/-- An address as it is written: its first longest run of at least two zeros is left out. -/
def shown (a : Ipv6) : List Char :=
  let ps := a.pieces.toList
  match longestZeros 0 ps with
  | (_, 0) | (_, 1) => joined ps
  | (place, count) => joined (ps.take place) ++ [':', ':'] ++ joined (ps.drop (place + count))

end Ipv6

end LspClient.Url
