import LspClient.Json.Mismatch
import LspClient.Text.Utf8

/-!
# Faults in JSON text

A reader stops at the first fault it meets from left to right. A fault is a problem and the text
that had not been read at that point; where the problem is with the character ahead, the position
counts some of its bytes too. A problem is one of three kinds: the text ends too early, the text is
not JSON, or it is JSON of the wrong shape, which is reported at once even where the text is broken
further on.

Text may be embedded in a string of another text. A fault in it keeps the place it has there.
-/

namespace LspClient.Json

/-- What a reader of JSON text can meet. -/
inductive Problem where
  | endInList
  | endInObject
  | endInString
  | endInValue
  | expectedColon
  | expectedListCommaOrEnd
  | expectedObjectCommaOrEnd
  | expectedIdent
  | expectedValue
  | invalidEscape
  | invalidNumber
  | numberOutOfRange
  | controlCharacter
  | keyMustBeString
  | loneSurrogate
  | trailingComma
  | trailingCharacters
  | endOfHexEscape
  | tooDeep
  | mismatch (m : Mismatch)
  deriving DecidableEq, Repr

/-- The kind of a problem. -/
inductive Category where
  /-- The text ended too early. -/
  | eof
  /-- The text is not JSON. -/
  | syntactic
  /-- JSON of the wrong shape. -/
  | data
  deriving DecidableEq, Repr

/-- The kind of a problem. -/
def Problem.category : Problem → Category
  | .endInList | .endInObject | .endInString | .endInValue => .eof
  | .mismatch _ => .data
  | _ => .syntactic

/-- The wording of a problem. The place of a fault in embedded text is not part of it. -/
def Problem.message : Problem → String
  | .endInList => "EOF while parsing a list"
  | .endInObject => "EOF while parsing an object"
  | .endInString => "EOF while parsing a string"
  | .endInValue => "EOF while parsing a value"
  | .expectedColon => "expected `:`"
  | .expectedListCommaOrEnd => "expected `,` or `]`"
  | .expectedObjectCommaOrEnd => "expected `,` or `\x7d`"
  | .expectedIdent => "expected ident"
  | .expectedValue => "expected value"
  | .invalidEscape => "invalid escape"
  | .invalidNumber => "invalid number"
  | .numberOutOfRange => "number out of range"
  | .controlCharacter => "control character (\\u0000-\\u001F) found while parsing a string"
  | .keyMustBeString => "key must be a string"
  | .loneSurrogate => "lone leading surrogate in hex escape"
  | .trailingComma => "trailing comma"
  | .trailingCharacters => "trailing characters"
  | .endOfHexEscape => "unexpected end of hex escape"
  | .tooDeep => "recursion limit exceeded"
  | .mismatch (.embedded wording _ _) => wording
  | .mismatch m => m.message

/-- A problem and where a reader met it. -/
structure Fault where
  problem : Problem
  /-- The text that had not been read. -/
  rest : List Char
  /-- How many bytes of that text the position counts. -/
  ahead : Nat := 0
  deriving DecidableEq, Repr

namespace Fault

/-- A fault with the next character, whose first byte the position counts. -/
def peek (problem : Problem) (rest : List Char) : Fault :=
  ⟨problem, rest, 1⟩

/-- The number of bytes of a text. -/
def byteCount (s : List Char) : Nat :=
  s.foldl (fun n c ↦ n + c.utf8Size) 0

/-- The line and the column of what a fault has not read, the column counting bytes since the line
began. -/
def reached (text : List Char) (fault : Fault) : Nat × Nat :=
  let bytes := Utf8.encode text
  let index := min bytes.length (bytes.length - byteCount fault.rest + fault.ahead)
  let before := bytes.take index
  let line := (before.filter (· == 10)).length + 1
  let column := (before.reverse.takeWhile (· != 10)).length
  (line, column)

/-- The line and the column of a fault in a text, or in the text embedded there that it is in. -/
def position (text : List Char) (fault : Fault) : Nat × Nat :=
  match fault.problem with
  | .mismatch (.embedded _ line column) => (line, column)
  | _ => fault.reached text

/-- The wording of a fault, with its position in the text. -/
def message (text : List Char) (fault : Fault) : String :=
  atPlace fault.problem.message (fault.position text).1 (fault.position text).2

/-- What is wrong with a value that holds a text with a fault. -/
def inEmbedded (text : List Char) (fault : Fault) : Mismatch :=
  .embedded fault.problem.message (fault.position text).1 (fault.position text).2

end Fault

/-- What a reader took from the front of a text: a value, and the shorter text after it. -/
structure Taken (α : Type) (s : List Char) where
  value : α
  rest : List Char
  shorter : rest.length < s.length

/-- What a reader makes of a text: a value with the text after it, or a fault. -/
abbrev Reading (α : Type) (s : List Char) := Except Fault (Taken α s)

/-- Another value with the same text after it. -/
def Taken.map {α β : Type} {s : List Char} (f : α → β) (t : Taken α s) : Taken β s :=
  ⟨f t.value, t.rest, t.shorter⟩

/-- What was taken from the end of a text was taken from the text. -/
def Taken.widen {α : Type} {s s' : List Char} (t : Taken α s') (h : s'.length ≤ s.length) :
    Taken α s :=
  ⟨t.value, t.rest, Nat.lt_of_lt_of_le t.shorter h⟩

end LspClient.Json
