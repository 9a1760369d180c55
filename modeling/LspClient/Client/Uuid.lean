import LspClient.Text.Quoted

/-!
# UUIDs

The text of a random UUID: 122 bits that are drawn, and six that say what kind of UUID it is.
-/

namespace LspClient.Uuid

/-- The last `width` hexadecimal digits of a number. -/
def hexField (width n : Nat) : List Char :=
  (List.range width).reverse.map fun place ↦ Text.hexDigit (n >>> (4 * place) % 16)

/-- The text of the random UUID with the bits of a number. -/
def text (bits : Nat) : String :=
  String.ofList (hexField 8 (bits >>> 90) ++ '-' :: hexField 4 (bits >>> 74) ++ '-' :: '4' ::
    hexField 3 (bits >>> 62) ++ '-' :: hexField 4 (0x8000 + bits >>> 48 % 0x4000) ++ '-' ::
    hexField 12 bits)

end LspClient.Uuid
