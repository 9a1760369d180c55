/-!
# Whole numbers in decimal

Writing and reading whole numbers, with a bound on what may be read. A reader that refuses says
which rule the text broke, and the leftmost broken rule wins.
-/

namespace LspClient.Decimal

/-- The decimal digits of a number, without leading zeros; `0` has one digit. -/
def digits (n : Nat) : List Char :=
  Nat.toDigits 10 n

/-- The decimal text of a number. -/
def text (n : Nat) : String :=
  String.ofList (digits n)

/-- The decimal text of an integer, with a minus sign in front of a negative one. -/
def signedText : Int → String
  | .ofNat n => text n
  | .negSucc n => "-" ++ text (n + 1)

/-- The value of a digit character. -/
def digitValue (c : Char) : Nat :=
  c.toNat - '0'.toNat

/-- The number that a list of digit characters stands for. -/
def value (cs : List Char) : Nat :=
  cs.foldl (fun n c ↦ 10 * n + digitValue c) 0

/-- Why a text is not a whole number in the range asked for. -/
inductive Refusal where
  | empty
  | invalidDigit
  | tooLarge
  deriving DecidableEq, Repr

/-- The wording of a refusal. -/
def Refusal.message : Refusal → String
  | .empty => "cannot parse integer from empty string"
  | .invalidDigit => "invalid digit found in string"
  | .tooLarge => "number too large to fit in target type"

/-- Reads digits after a prefix worth `n`, refusing at the first character that is no digit or takes
the number past `limit`. -/
def readDigits (limit : Nat) : Nat → List Char → Except Refusal Nat
  | n, [] => .ok n
  | n, c :: rest =>
    if !c.isDigit then .error .invalidDigit
    else if limit < 10 * n + digitValue c then .error .tooLarge
    else readDigits limit (10 * n + digitValue c) rest

/-- Reads a whole number of at most `limit`: one or more digits, after at most one plus sign. -/
def read (limit : Nat) : List Char → Except Refusal Nat
  | [] => .error .empty
  | ['+'] => .error .invalidDigit
  | '+' :: rest => readDigits limit 0 rest
  | cs => readDigits limit 0 cs

/-- Reads a whole number of at most `limit` where a minus sign is allowed in front of zero. -/
def readUnsigned (limit : Nat) : List Char → Except Refusal Nat
  | ['-'] => .error .invalidDigit
  | '-' :: rest => readDigits 0 0 rest
  | cs => read limit cs

end LspClient.Decimal
