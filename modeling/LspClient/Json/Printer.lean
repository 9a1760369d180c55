import LspClient.Decimal.Shortest
import LspClient.Json.Basic
import LspClient.Text.Quoted

/-!
# Writing JSON

The compact form has no blanks between tokens. The indented form puts every element and member on a
line of its own, two blanks deeper than its container, and writes an empty container on one line.
Both write the members of an object in the order in which it has them.
-/

namespace LspClient

namespace Json

/-- Numbers are written positionally while their leading digit has an exponent from -5 to 15, a
whole number shows its fraction, and an exponent always has a sign. -/
def decimals : DecimalStyle where
  leastPlain := -5
  greatestPlain := 15
  wholeMark := ['.', '0']
  exponentMark := ['e', '+']
  negativeExponentMark := ['e', '-']

/-- The text of a number. -/
def Number.print : Number → List Char
  | .natural n => Decimal.digits n.toNat
  | .negative k => '-' :: Decimal.digits (k + 1)
  | .real x => decimals.renderBinary64 x

/-- A character inside a string. Quotes, backslashes and the characters below U+0020 are escaped,
and no others. -/
def escapeChar (c : Char) : List Char :=
  if c = '"' then ['\\', '"']
  else if c = '\\' then ['\\', '\\']
  else if 0x20 ≤ c.toNat then [c]
  else if c = '\n' then ['\\', 'n']
  else if c = '\r' then ['\\', 'r']
  else if c = '\t' then ['\\', 't']
  else if c.toNat = 0x08 then ['\\', 'b']
  else if c.toNat = 0x0C then ['\\', 'f']
  else ['\\', 'u', '0', '0', Text.hexDigit (c.toNat / 16), Text.hexDigit (c.toNat % 16)]

/-- The text of a string. -/
def printString (s : String) : List Char :=
  '"' :: (s.toList.flatMap escapeChar ++ ['"'])

/-- The texts of `true` and `false`. -/
def printBool (b : Bool) : List Char :=
  if b then ['t', 'r', 'u', 'e'] else ['f', 'a', 'l', 's', 'e']

mutual

/-- The compact text of a value. -/
def print : Json → List Char
  | .null => ['n', 'u', 'l', 'l']
  | .bool b => printBool b
  | .number n => n.print
  | .string s => printString s
  | .array [] => ['[', ']']
  | .array (x :: xs) => '[' :: (print x ++ printElements xs)
  | .object [] => ['{', '}']
  | .object ((name, v) :: ms) => '{' :: (printString name ++ ':' :: (print v ++ printMembers ms))

/-- The elements after the first, and the end of the array. -/
def printElements : List Json → List Char
  | [] => [']']
  | x :: xs => ',' :: (print x ++ printElements xs)

/-- The members after the first, and the end of the object. -/
def printMembers : Members → List Char
  | [] => ['}']
  | (name, v) :: ms => ',' :: (printString name ++ ':' :: (print v ++ printMembers ms))

end

/-- The compact text of a value. -/
def text (v : Json) : String :=
  String.ofList (print v)

/-- A new line, indented for the given depth. -/
def newline (depth : Nat) : List Char :=
  '\n' :: List.replicate (2 * depth) ' '

mutual

/-- The indented text of a value that stands at the given depth. -/
def indent (depth : Nat) : Json → List Char
  | .null => ['n', 'u', 'l', 'l']
  | .bool b => printBool b
  | .number n => n.print
  | .string s => printString s
  | .array [] => ['[', ']']
  | .array (x :: xs) =>
    '[' :: (newline (depth + 1) ++ (indent (depth + 1) x ++ indentElements depth xs))
  | .object [] => ['{', '}']
  | .object ((name, v) :: ms) =>
    '{' :: (newline (depth + 1) ++
      (printString name ++ ':' :: ' ' :: (indent (depth + 1) v ++ indentMembers depth ms)))

/-- The elements after the first, and the end of an array that stands at the given depth. -/
def indentElements (depth : Nat) : List Json → List Char
  | [] => newline depth ++ [']']
  | x :: xs =>
    ',' :: (newline (depth + 1) ++ (indent (depth + 1) x ++ indentElements depth xs))

/-- The members after the first, and the end of an object that stands at the given depth. -/
def indentMembers (depth : Nat) : Members → List Char
  | [] => newline depth ++ ['}']
  | (name, v) :: ms =>
    ',' :: (newline (depth + 1) ++
      (printString name ++ ':' :: ' ' :: (indent (depth + 1) v ++ indentMembers depth ms)))

end

/-- The indented text of a value. -/
def indentedText (v : Json) : String :=
  String.ofList (indent 0 v)

end Json

end LspClient
