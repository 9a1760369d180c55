/-!
# UTF-8

Bytes to characters and back. Decoding is strict and says where and how it failed: either a
sequence is invalid after so many of its bytes, or the bytes end inside a sequence. The lenient
reading of a message body replaces each such fault by U+FFFD.

Both directions use arithmetic on the byte values, so that `decode (encode s)` can be computed one
character at a time.
-/

namespace LspClient.Utf8

/-- The bytes of one character. -/
def encodeChar (c : Char) : List UInt8 :=
  let n := c.toNat
  if n < 0x80 then [.ofNat n]
  else if n < 0x800 then [.ofNat (0xC0 + n / 0x40), .ofNat (0x80 + n % 0x40)]
  else if n < 0x10000 then
    [.ofNat (0xE0 + n / 0x1000), .ofNat (0x80 + n / 0x40 % 0x40), .ofNat (0x80 + n % 0x40)]
  else
    [.ofNat (0xF0 + n / 0x40000), .ofNat (0x80 + n / 0x1000 % 0x40),
      .ofNat (0x80 + n / 0x40 % 0x40), .ofNat (0x80 + n % 0x40)]

/-- The bytes of a text. -/
def encode (s : List Char) : List UInt8 :=
  s.flatMap encodeChar

/-- The bytes of a string. -/
def bytes (s : String) : List UInt8 :=
  encode s.toList

/-- Why bytes are not UTF-8. The index is that of the first byte of the offending sequence. -/
inductive Fault where
  /-- After `length` bytes of a sequence the next byte cannot continue it. -/
  | invalid (length index : Nat)
  /-- The bytes end inside a sequence. -/
  | incomplete (index : Nat)
  deriving DecidableEq, Repr

/-- The wording of a fault. -/
def Fault.message : Fault → String
  | .invalid length index => s!"invalid utf-8 sequence of {length} bytes from index {index}"
  | .incomplete index => s!"incomplete utf-8 byte sequence from index {index}"

/-- What stands at the front of a sequence of bytes. -/
inductive Front where
  /-- Nothing: there are no more bytes. -/
  | done
  /-- A character, and the bytes after it. -/
  | char (c : Char) (rest : List UInt8)
  /-- The first `length` bytes start a sequence that the byte after them does not continue. -/
  | invalid (length : Nat)
  /-- The bytes end inside a sequence. -/
  | incomplete

/-- A byte that may stand after the second in a sequence. -/
def isContinuation (b : UInt8) : Bool :=
  0x80 ≤ b.toNat && b.toNat ≤ 0xBF

/-- The values the second byte of a sequence may have, given the first: a narrower range excludes
overlong forms, surrogates and values past U+10FFFF. -/
def secondRange (first : Nat) : Nat × Nat :=
  if first = 0xE0 then (0xA0, 0xBF)
  else if first = 0xED then (0x80, 0x9F)
  else if first = 0xF0 then (0x90, 0xBF)
  else if first = 0xF4 then (0x80, 0x8F)
  else (0x80, 0xBF)

/-- Reads one character. -/
def front : List UInt8 → Front
  | [] => .done
  | b₀ :: r₀ =>
    let n₀ := b₀.toNat
    if n₀ < 0x80 then .char (.ofNat n₀) r₀
    else if n₀ < 0xC2 || 0xF4 < n₀ then .invalid 1
    else match r₀ with
      | [] => .incomplete
      | b₁ :: r₁ =>
        let n₁ := b₁.toNat
        if n₁ < (secondRange n₀).1 || (secondRange n₀).2 < n₁ then .invalid 1
        else if n₀ < 0xE0 then .char (.ofNat ((n₀ - 0xC0) * 0x40 + (n₁ - 0x80))) r₁
        else match r₁ with
          | [] => .incomplete
          | b₂ :: r₂ =>
            let n₂ := b₂.toNat
            if !isContinuation b₂ then .invalid 2
            else if n₀ < 0xF0 then
              .char (.ofNat ((n₀ - 0xE0) * 0x1000 + (n₁ - 0x80) * 0x40 + (n₂ - 0x80))) r₂
            else match r₂ with
              | [] => .incomplete
              | b₃ :: r₃ =>
                if !isContinuation b₃ then .invalid 3
                else
                  .char (.ofNat ((n₀ - 0xF0) * 0x40000 + (n₁ - 0x80) * 0x1000 +
                    (n₂ - 0x80) * 0x40 + (b₃.toNat - 0x80))) r₃

theorem length_lt_of_front {bytes rest : List UInt8} {c : Char}
    (h : front bytes = .char c rest) : rest.length < bytes.length := by
  simp only [front] at h
  repeat' split at h
  all_goals first
    | contradiction
    | (injection h with _ h; subst h; simp only [List.length_cons]; omega)

theorem pos_of_front_invalid {bytes : List UInt8} {n : Nat} (h : front bytes = .invalid n) :
    0 < n ∧ bytes ≠ [] := by
  simp only [front] at h
  repeat' split at h
  all_goals first
    | contradiction
    | (injection h with h; subst h; exact ⟨by decide, List.cons_ne_nil _ _⟩)

/-- Decodes bytes after `index` earlier ones, whose characters are in `taken`, latest first. -/
def decodeFrom (taken : List Char) (index : Nat) (bytes : List UInt8) :
    Except Fault (List Char) :=
  match h : front bytes with
  | .done => .ok taken.reverse
  | .char c rest =>
    have := length_lt_of_front h
    decodeFrom (c :: taken) (index + c.utf8Size) rest
  | .invalid length => .error (.invalid length index)
  | .incomplete => .error (.incomplete index)
  termination_by bytes.length

/-- The characters of a sequence of bytes, or its first fault. -/
def decode (bytes : List UInt8) : Except Fault (List Char) :=
  decodeFrom [] 0 bytes

/-- The characters of a sequence of bytes, each fault read as U+FFFD. -/
def decodeLenient (bytes : List UInt8) : List Char :=
  match h : front bytes with
  | .done => []
  | .char c rest =>
    have := length_lt_of_front h
    c :: decodeLenient rest
  | .invalid length =>
    have : bytes.length - length < bytes.length := by
      have h' := pos_of_front_invalid h
      have : 0 < bytes.length := List.length_pos_iff.2 h'.2
      omega
    '\uFFFD' :: decodeLenient (bytes.drop length)
  | .incomplete => ['\uFFFD']
  termination_by bytes.length

end LspClient.Utf8
