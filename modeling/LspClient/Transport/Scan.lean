import LspClient.Text.Blank
import LspClient.Text.Utf8
import LspClient.Transport.Error
import LspClient.Transport.Framing

/-!
# Reading messages off a stream

A scan is how far the reading of one message has come. It takes one byte at a time, so that what
comes of a stream cannot depend on how its bytes were grouped when they arrived. A scan ends with a
message or with an error; the end of the stream ends it too, and so may an error of the stream.

Lines that hold nothing but white space are skipped, and white space around a message is dropped. In
a header only the length is of interest; of several the last one counts.
-/

namespace LspClient.Transport

/-- The length of the longest message that is read. -/
def greatestLength : Nat :=
  16777216

/-- The greatest length that a header can name. -/
def greatestNumber : Nat :=
  UInt64.size - 1

/-- How far the reading of a message has come. The bytes taken so far are kept latest first. -/
inductive Scan where
  /-- In a line that will be the message. -/
  | line (taken : List UInt8)
  /-- In a line of the header, `length` being the last one named before it. -/
  | header (length : Option Nat) (taken : List UInt8)
  /-- In a message of which the next byte and `missing` more are still to come. -/
  | body (missing : Nat) (taken : List UInt8)
  deriving DecidableEq, Repr

namespace Scan

/-- What one more byte makes of a scan. -/
inductive Step where
  /-- The message is not complete. -/
  | more (scan : Scan)
  /-- The reading has ended. -/
  | ended (result : Except Error String)

/-- The scan before the first byte of a message. -/
def start : Framing → Scan
  | .lines => line []
  | .contentLength => header none []

/-- The text of a line, given its bytes with the latest first. -/
def lineText (taken : List UInt8) : Except Error (List Char) :=
  (Utf8.decode taken.reverse).mapError fun fault ↦ .io ⟨.invalidData, fault.message⟩

/-- The message in a line; none in one that is blank. -/
def lineMessage (taken : List UInt8) : Except Error (Option String) :=
  (lineText taken).map fun s ↦
    match Text.trim s with
    | [] => none
    | m => some (String.ofList m)

/-- The message that a body is. -/
def bodyMessage (taken : List UInt8) : Except Error String :=
  match Utf8.decode taken.reverse with
  | .ok s => .ok (String.ofList s)
  | .error fault => .error (.framing s!"message body is not UTF-8: {fault.message}")

/-- The name of the member of the header that counts. -/
def lengthName : List Char :=
  "content-length".toList

/-- The length that holds after a line of the header, `length` being the one before it. -/
def headerLength (length : Option Nat) (s : List Char) : Except Error (Option Nat) :=
  match Text.splitAtFirst ':' s with
  | none => .error (.framing s!"malformed header line '{String.ofList s}'")
  | some (name, value) =>
    if Text.equalIgnoringAsciiCase (Text.trim name) lengthName then
      match Decimal.read greatestNumber (Text.trim value) with
      | .ok n => .ok (some n)
      | .error refusal =>
        let shown := String.ofList (Text.trim value)
        .error (.framing s!"invalid Content-Length '{shown}': {refusal.message}")
    else .ok length

/-- What follows the header. A message of no bytes is complete at once. -/
def afterHeader : Option Nat → Step
  | none => .ended (.error (.framing "missing Content-Length header"))
  | some length =>
    if greatestLength < length then
      .ended (.error (.framing
        s!"Content-Length {Decimal.text length} exceeds the {greatestLength} byte limit"))
    else
      match length with
      | 0 => .ended (bodyMessage [])
      | missing + 1 => .more (.body missing [])

/-- A line of the header without its end. -/
def dropLineEnd (s : List Char) : List Char :=
  Text.dropEndWhile (fun c ↦ c == '\r' || c == '\n') s

/-- What a line of the header leads to, its bytes given with the latest first. An empty line ends
the header. -/
def headerLine (length : Option Nat) (taken : List UInt8) : Step :=
  match lineText taken with
  | .error e => .ended (.error e)
  | .ok s =>
    match dropLineEnd s with
    | [] => afterHeader length
    | s =>
      match headerLength length s with
      | .ok length => .more (.header length [])
      | .error e => .ended (.error e)

/-- The byte that ends a line. -/
def newline : UInt8 :=
  0x0A

/-- What one more byte makes of a scan. -/
def byte (scan : Scan) (b : UInt8) : Step :=
  match scan with
  | line taken =>
    if b = newline then
      match lineMessage (b :: taken) with
      | .ok (some m) => .ended (.ok m)
      | .ok none => .more (.line [])
      | .error e => .ended (.error e)
    else .more (.line (b :: taken))
  | header length taken =>
    if b = newline then headerLine length (b :: taken)
    else .more (.header length (b :: taken))
  | body 0 taken => .ended (bodyMessage (b :: taken))
  | body (missing + 1) taken => .more (.body missing (b :: taken))

/-- What the end of the stream makes of a scan. A last line needs no newline. -/
def close : Scan → Except Error String
  | line [] => .error .closed
  | line taken =>
    match lineMessage taken with
    | .ok (some m) => .ok m
    | .ok none => .error .closed
    | .error e => .error e
  | header _ [] => .error .closed
  | header length taken =>
    match headerLine length taken with
    | .ended result => result
    | .more _ => .error .closed
  | body _ _ => .error .closed

/-- The error that an error of the stream makes of a scan. Inside a message a stream that is said to
have ended has ended.

An interruption does not end a scan, be it in a line or in a body. For a body this rests on what
reading was seen to do and not on what is documented: a read of so many bytes is documented to end
with any other error at once, but a body that was interrupted has always been read on. -/
def failure? (scan : Scan) (e : IoError) : Option Error :=
  if e.kind = .interrupted then none
  else
    match scan with
    | body _ _ => some (if e.kind = .unexpectedEof then .closed else .io e)
    | _ => some (.io e)

/-- What comes of feeding bytes to a scan. -/
inductive Fed where
  /-- All bytes were taken, and the message is not complete. -/
  | unfinished (scan : Scan)
  /-- The reading has ended, and `rest` was not looked at. -/
  | finished (result : Except Error String) (rest : List UInt8)

/-- Feeds bytes to a scan until it ends or there are no more. -/
def feed (scan : Scan) : List UInt8 → Fed
  | [] => .unfinished scan
  | b :: rest =>
    match scan.byte b with
    | .more scan => feed scan rest
    | .ended result => .finished result rest

/-! ### Feeding piece by piece -/

/-- Feeding two pieces is feeding the first and then, if the scan has not ended, the second. -/
theorem feed_append (scan : Scan) (xs ys : List UInt8) :
    scan.feed (xs ++ ys) =
      match scan.feed xs with
      | .unfinished scan => scan.feed ys
      | .finished result rest => .finished result (rest ++ ys) := by
  induction xs generalizing scan with
  | nil => rfl
  | cons b xs ih =>
    simp only [List.cons_append, feed]
    cases scan.byte b with
    | more scan => exact ih scan
    | ended result => rfl

end Scan

end LspClient.Transport
