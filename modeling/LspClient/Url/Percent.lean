import LspClient.Text.CodeSet
import LspClient.Text.Utf8

/-!
# Percent-encoding

A byte that may not stand in some part of a URL is written as a percent sign and two hexadecimal
digits. Each part has its own set of characters that are written so; control characters and
everything outside ASCII belong to all of them, and the percent sign itself to none.
-/

namespace LspClient.Url

/-- The hexadecimal digit of a value below sixteen, letters being capital. -/
def hexCapital (n : Nat) : Char :=
  if n < 10 then .ofNat ('0'.toNat + n) else .ofNat ('A'.toNat + (n - 10))

/-- A byte as a percent sign and two digits. -/
def encodeByte (b : UInt8) : List Char :=
  ['%', hexCapital (b.toNat / 16), hexCapital (b.toNat % 16)]

/-- A text with the characters of a set encoded. -/
def encode (encoded : Char → Bool) (s : List Char) : List Char :=
  s.flatMap fun c ↦ if encoded c then (Utf8.encodeChar c).flatMap encodeByte else [c]

/-- The bytes of a text in which bytes may be encoded. A percent sign that no two hexadecimal digits
follow stands for itself. -/
def decode : List Char → List UInt8
  | [] => []
  | '%' :: h :: l :: rest =>
    match Text.hexValue? h, Text.hexValue? l with
    | some h, some l => .ofNat (16 * h + l) :: decode rest
    | _, _ => 0x25 :: decode (h :: l :: rest)
  | c :: rest => Utf8.encodeChar c ++ decode rest

/-! ### The sets of the parts -/

/-- The characters that are encoded in every part. -/
def isControl (c : Char) : Bool :=
  c.toNat < 0x20 || 0x7E < c.toNat

/-- The characters that are encoded in a fragment. -/
def inFragmentSet (c : Char) : Bool :=
  isControl c || [' ', '"', '<', '>', '\x60'].contains c

/-- The characters that are encoded in a path. -/
def inPathSet (c : Char) : Bool :=
  inFragmentSet c || ['#', '?', '{', '}'].contains c

/-- The characters that are encoded in a user's name or password. -/
def inUserSet (c : Char) : Bool :=
  inPathSet c || ['/', ':', ';', '=', '@', '[', '\\', ']', '^', '|'].contains c

/-- The characters that are encoded in a query. -/
def inQuerySet (c : Char) : Bool :=
  isControl c || [' ', '"', '#', '<', '>', '\x27'].contains c

end LspClient.Url
