import LspClient.Proofs.Decimal.Whole
import LspClient.Proofs.Text.Blank
import LspClient.Proofs.Text.Utf8
import LspClient.Transport.Scan

/-!
# A frame reads back as its message

The bytes of a frame, whatever follows them, bring a scan to its end exactly at the last of them,
and the message it ends with is the one that was framed (`feed_frame`). The two framings are safe
for different reasons, and each says what it asks of a message (`Framing.Suits`):

* between line ends a message must be one line that is not blank and has no white space around it;
* behind a header it may be anything that is not too long, since its bytes are counted.

`feed_frame_lines` says what becomes of a line with white space around the message.
-/

namespace LspClient.Transport

/-- What a framing asks of a message that is to come through unchanged. -/
def Framing.Suits (framing : Framing) (message : String) : Prop :=
  match framing with
  | .lines =>
    '\n' ∉ message.toList ∧ message.toList ≠ [] ∧ Text.trim message.toList = message.toList
  | .contentLength => message.utf8ByteSize ≤ greatestLength

namespace Scan

/-! ### Feeding a line, a header, a body -/

/-- What comes of feeding bytes after a step. -/
def Step.feed (step : Step) (bytes : List UInt8) : Fed :=
  match step with
  | .more scan => scan.feed bytes
  | .ended result => .finished result bytes

theorem feed_cons (scan : Scan) (b : UInt8) (bytes : List UInt8) :
    scan.feed (b :: bytes) = (scan.byte b).feed bytes := by
  rw [Scan.feed]
  cases scan.byte b with
  | more next => rfl
  | ended result => rfl

/-- A scan that only keeps every byte but the newline keeps them all, latest first. -/
theorem feed_kept {scan : List UInt8 → Scan}
    (hscan : ∀ b taken, b ≠ newline → (scan taken).byte b = .more (scan (b :: taken)))
    {xs : List UInt8} (h : newline ∉ xs) (taken ys : List UInt8) :
    (scan taken).feed (xs ++ ys) = (scan (xs.reverse ++ taken)).feed ys := by
  induction xs generalizing taken with
  | nil => rfl
  | cons b xs ih =>
    have hb : b ≠ newline := by
      rintro rfl
      exact h List.mem_cons_self
    have hxs : newline ∉ xs := fun hmem ↦ h (List.mem_cons_of_mem b hmem)
    rw [List.cons_append, feed_cons, hscan b taken hb]
    show (scan (b :: taken)).feed (xs ++ ys) = _
    rw [ih hxs, List.reverse_cons, List.append_assoc, List.singleton_append]

/-- Inside a line, bytes other than the newline are only kept. -/
theorem feed_line_append {xs : List UInt8} (h : newline ∉ xs) (taken ys : List UInt8) :
    (line taken).feed (xs ++ ys) = (line (xs.reverse ++ taken)).feed ys :=
  @feed_kept line (fun _ _ hb ↦ if_neg hb) _ h taken ys

@[inherit_doc feed_line_append]
theorem feed_header_append {xs : List UInt8} (h : newline ∉ xs) (length : Option Nat)
    (taken ys : List UInt8) :
    (header length taken).feed (xs ++ ys) = (header length (xs.reverse ++ taken)).feed ys :=
  @feed_kept (header length) (fun _ _ hb ↦ if_neg hb) _ h taken ys

/-- A line of the header is judged at its newline. -/
theorem feed_headerLine {xs : List UInt8} (h : newline ∉ xs) (length : Option Nat)
    (ys : List UInt8) :
    (header length []).feed (xs ++ newline :: ys) =
      (headerLine length (newline :: xs.reverse)).feed ys := by
  rw [feed_header_append h, feed_cons, byte, if_pos rfl, List.append_nil]

/-- A body takes exactly the bytes that are missing. -/
theorem feed_body {missing : Nat} {xs : List UInt8} (h : xs.length = missing + 1)
    (taken ys : List UInt8) :
    (body missing taken).feed (xs ++ ys) = .finished (bodyMessage (xs.reverse ++ taken)) ys := by
  induction missing generalizing xs taken with
  | zero =>
    obtain ⟨b, rfl⟩ := List.length_eq_one_iff.1 h
    rfl
  | succ missing ih =>
    cases xs with
    | nil => contradiction
    | cons b xs =>
      rw [List.cons_append, feed_cons, byte, Step.feed, ih (Nat.succ.inj h), List.reverse_cons,
        List.append_assoc, List.singleton_append]

/-! ### The texts of a scan -/

/-- The text of a line whose bytes are those of a text. -/
theorem lineText_encode (s : List Char) : lineText (Utf8.encode s).reverse = .ok s := by
  rw [lineText, List.reverse_reverse, Utf8.decode_encode]
  rfl

theorem encode_newline : Utf8.encode ['\n'] = [newline] := by decide

/-- The bytes of a line with its end, latest first, as a scan keeps them. -/
theorem newline_cons_reverse_encode (s : List Char) :
    newline :: (Utf8.encode s).reverse = (Utf8.encode (s ++ ['\n'])).reverse := by
  rw [Utf8.encode_append, encode_newline, List.reverse_append, List.reverse_singleton,
    List.singleton_append]

theorem newline_not_mem_encode {s : List Char} (h : '\n' ∉ s) : newline ∉ Utf8.encode s :=
  fun hs ↦ h (Utf8.mem_of_mem_encode (by decide) hs)

theorem newline_mem_encode {s : List Char} (h : '\n' ∈ s) : newline ∈ Utf8.encode s :=
  List.mem_flatMap.2 ⟨'\n', h, List.mem_singleton_self _⟩

/-- A text whose bytes end in a newline ends in it. -/
theorem exists_of_append_newline {xs : List UInt8} {u : List Char}
    (h : xs ++ [newline] = Utf8.encode u) : ∃ s, u = s ++ ['\n'] ∧ xs = Utf8.encode s := by
  rcases List.eq_nil_or_concat u with rfl | ⟨s, c, rfl⟩
  · exact absurd h (by simp)
  · rw [List.concat_eq_append] at h ⊢
    rw [Utf8.encode_append] at h
    have hmem : newline ∈ Utf8.encode [c] := by
      rcases List.eq_nil_or_concat (Utf8.encode [c]) with hnil | ⟨ys, b, hb⟩
      · have hlength := Utf8.length_encodeChar c
        rw [Utf8.encode_cons, Utf8.encode_nil, List.append_nil] at hnil
        rw [hnil] at hlength
        exact absurd hlength.symm (Nat.ne_of_gt (Char.utf8Size_pos c))
      · rw [hb, List.concat_eq_append, ← List.append_assoc] at h
        obtain ⟨-, hbyte⟩ := List.append_inj' h rfl
        rw [hb, List.concat_eq_append, (List.cons.inj hbyte).1]
        exact List.mem_append_right ys (List.mem_singleton_self b)
    have hc := Utf8.mem_of_mem_encode (by decide) hmem
    obtain rfl := List.mem_singleton.1 hc
    exact ⟨s, rfl, List.append_cancel_right h⟩

/-- A body that holds a message is read as that message. -/
theorem bodyMessage_bytes (message : String) :
    bodyMessage (Utf8.bytes message).reverse = .ok message := by
  rw [bodyMessage, List.reverse_reverse, Utf8.bytes, Utf8.decode_encode]
  exact congrArg Except.ok String.ofList_toList

/-! ### Lines -/

/-- A line that is not blank is read as the message in it, without white space around it. -/
theorem feed_frame_lines {message : String} (hline : '\n' ∉ message.toList)
    (hblank : Text.trim message.toList ≠ []) (rest : List UInt8) :
    (start .lines).feed (Framing.lines.frame message ++ rest) =
      .finished (.ok (String.ofList (Text.trim message.toList))) rest := by
  have hframe : Framing.lines.frame message ++ rest =
      Utf8.encode message.toList ++ newline :: rest := by
    have : Utf8.bytes "\n" = [newline] := by decide
    rw [Framing.frame, Framing.pieces, this, Utf8.bytes]
    simp only [List.flatten_cons, List.flatten_nil, List.append_nil, List.append_assoc,
      List.singleton_append]
  have htrim : Text.trim (message.toList ++ ['\n']) = Text.trim message.toList :=
    Text.trim_append_of_blank (Text.forall_mem_of_all rfl)
  rw [hframe, start, feed_line_append (newline_not_mem_encode hline), feed_cons, byte,
    if_pos rfl, List.append_nil, newline_cons_reverse_encode, lineMessage, lineText_encode,
    Except.map, htrim]
  obtain ⟨c, s, hs⟩ := List.exists_cons_of_ne_nil hblank
  rw [hs]
  rfl

/-! ### Headers -/

/-- What stands in front of a length, without the colon. -/
def lengthLabel : List Char :=
  ['C', 'o', 'n', 't', 'e', 'n', 't', '-', 'L', 'e', 'n', 'g', 't', 'h']

/-- The line of the header that names a length, without its end. -/
def lengthLine (length : Nat) : List Char :=
  lengthLabel ++ ':' :: ' ' :: Decimal.digits length

theorem toList_append_ofList_append (a b : String) (s : List Char) :
    (a ++ String.ofList s ++ b).toList = a.toList ++ s ++ b.toList := by
  rw [String.toList_append, String.toList_append, String.toList_ofList]

/-- A header is the line with the length and an empty line. -/
theorem header_toList (length : Nat) :
    (Framing.header length).toList = lengthLine length ++ ['\r', '\n', '\r', '\n'] := by
  have hlabel : "Content-Length: ".toList = lengthLabel ++ [':', ' '] := by decide
  have hend : "\r\n\r\n".toList = ['\r', '\n', '\r', '\n'] := by decide
  calc (Framing.header length).toList
      = "Content-Length: ".toList ++ Decimal.digits length ++ "\r\n\r\n".toList :=
        toList_append_ofList_append _ _ _
    _ = lengthLabel ++ [':', ' '] ++ Decimal.digits length ++ ['\r', '\n', '\r', '\n'] :=
        congr (congrArg (fun s t ↦ s ++ Decimal.digits length ++ t) hlabel) hend
    _ = lengthLine length ++ ['\r', '\n', '\r', '\n'] := by
        rw [lengthLine]
        simp only [List.append_assoc, List.cons_append, List.nil_append]

theorem isBlank_of_isDigit {c : Char} (h : c.isDigit = true) : Text.isBlank c = false := by
  obtain ⟨hlow, hhigh⟩ := Char.isDigit_iff_toNat.1 h
  have h0 : '0'.toNat = 48 := rfl
  have h9 : '9'.toNat = 57 := rfl
  simp only [Text.isBlank, Bool.or_eq_false_iff, Bool.and_eq_false_iff, decide_eq_false_iff_not,
    beq_eq_false_iff_ne]
  omega

/-- No digit is cut off a length together with the white space in front of it. -/
theorem trim_digits (length : Nat) :
    Text.trim (' ' :: Decimal.digits length) = Decimal.digits length := by
  have hdigit : ∀ c ∈ Decimal.digits length, Text.isBlank c = false :=
    fun c hc ↦ isBlank_of_isDigit (Decimal.isDigit_of_mem_digits hc)
  have htrim := @Text.trim_eq_of_blanks [' '] (Decimal.digits length) []
    (Text.forall_mem_of_all rfl) (List.forall_mem_nil _)
    (fun c hc ↦ hdigit c (List.mem_of_mem_head? hc))
    (fun c hc ↦ hdigit c (List.mem_of_mem_getLast? hc))
  rwa [List.append_nil, List.singleton_append] at htrim

/-- The line with the length is understood, whatever length was named before it. -/
theorem headerLength_lengthLine {length : Nat} (h : length ≤ greatestNumber) (before : Option Nat) :
    headerLength before (lengthLine length) = .ok (some length) := by
  have hname : Text.equalIgnoringAsciiCase (Text.trim lengthLabel) lengthName = true := by decide
  rw [headerLength, lengthLine, Text.splitAtFirst_append (by decide)]
  simp only [hname, if_true, trim_digits, Decimal.read_digits h]

/-- A length beyond what a header can name is refused. -/
theorem exists_headerLength_lengthLine {length : Nat} (h : greatestNumber < length)
    (before : Option Nat) : ∃ e, headerLength before (lengthLine length) = .error e := by
  have hname : Text.equalIgnoringAsciiCase (Text.trim lengthLabel) lengthName = true := by decide
  obtain ⟨refusal, hread⟩ := Decimal.exists_of_read_digits h
  rw [headerLength, lengthLine, Text.splitAtFirst_append (by decide)]
  simp only [hname, if_true, trim_digits, hread]
  exact ⟨_, rfl⟩

/-- Neither character that may end a line occurs in the line with the length. -/
theorem lineEnd_not_mem_lengthLine {length : Nat} {c : Char} (h : c ∈ lengthLine length) :
    (c == '\r' || c == '\n') = false := by
  have hlabel : ∀ c ∈ lengthLabel, (c == '\r' || c == '\n') = false :=
    Text.forall_mem_of_all rfl
  rcases List.mem_append.1 h with h | h
  · exact hlabel c h
  rcases List.mem_cons.1 h with rfl | h
  · decide
  rcases List.mem_cons.1 h with rfl | h
  · decide
  have hdigit := Decimal.isDigit_of_mem_digits h
  have hr : c ≠ '\r' := fun hc ↦ absurd hdigit (hc ▸ by decide)
  have hn : c ≠ '\n' := fun hc ↦ absurd hdigit (hc ▸ by decide)
  simp only [beq_eq_false_iff_ne.2 hr, beq_eq_false_iff_ne.2 hn, Bool.or_false]

theorem newline_not_mem_lengthLine (length : Nat) : '\n' ∉ lengthLine length ++ ['\r'] := by
  intro hn
  rcases List.mem_append.1 hn with hn | hn
  · exact absurd (lineEnd_not_mem_lengthLine hn) (by decide)
  · exact absurd hn (by decide)

/-- Without its end, the line with the length is itself, and it is not empty. -/
theorem exists_dropLineEnd_lengthLine (length : Nat) : ∃ c s, lengthLine length = c :: s ∧
    dropLineEnd (lengthLine length ++ ['\r'] ++ ['\n']) = c :: s := by
  refine ⟨_, _, rfl, ?_⟩
  rw [List.append_assoc, dropLineEnd, Text.dropEndWhile_append_of_all (Text.forall_mem_of_all rfl)]
  exact Text.dropEndWhile_eq_self fun c hc ↦
    lineEnd_not_mem_lengthLine (List.mem_of_mem_getLast? hc)

/-- The line with the length, as a scan meets it. -/
theorem headerLine_lengthLine {length : Nat} (h : length ≤ greatestNumber) (before : Option Nat) :
    headerLine before (newline :: (Utf8.encode (lengthLine length ++ ['\r'])).reverse) =
      .more (.header (some length) []) := by
  obtain ⟨c, s, hs, hdrop⟩ := exists_dropLineEnd_lengthLine length
  have hlength := headerLength_lengthLine h before
  rw [hs] at hlength
  rw [newline_cons_reverse_encode, headerLine, lineText_encode]
  simp only [hdrop, hlength]

/-- A length beyond 64 bits is a mistake in the header. -/
theorem exists_headerLine_lengthLine {length : Nat} (h : greatestNumber < length)
    (before : Option Nat) :
    ∃ e, headerLine before (newline :: (Utf8.encode (lengthLine length ++ ['\r'])).reverse) =
      .ended (.error e) := by
  obtain ⟨c, s, hs, hdrop⟩ := exists_dropLineEnd_lengthLine length
  obtain ⟨e, hlength⟩ := exists_headerLength_lengthLine h before
  rw [hs] at hlength
  refine ⟨e, ?_⟩
  rw [newline_cons_reverse_encode, headerLine, lineText_encode]
  simp only [hdrop, hlength]

/-- The empty line ends the header. -/
theorem headerLine_empty (length : Option Nat) :
    headerLine length (newline :: (Utf8.encode ['\r']).reverse) = afterHeader length := by
  rw [newline_cons_reverse_encode, headerLine, lineText_encode]
  rfl

/-- The bytes of a header are those of its two lines. -/
theorem bytes_header (length : Nat) :
    Utf8.bytes (Framing.header length) = Utf8.encode (lengthLine length ++ ['\r']) ++
      newline :: (Utf8.encode ['\r'] ++ [newline]) := by
  have hsplit : lengthLine length ++ ['\r', '\n', '\r', '\n'] =
      lengthLine length ++ ['\r'] ++ ['\n'] ++ ['\r'] ++ ['\n'] := by
    simp only [List.append_assoc, List.cons_append, List.nil_append]
  rw [Utf8.bytes, header_toList, hsplit, Utf8.encode_append _ ['\n'], Utf8.encode_append _ ['\r'],
    Utf8.encode_append _ ['\n'], encode_newline]
  simp only [List.append_assoc, List.cons_append, List.nil_append]

/-- A header leads to the body it announces. -/
theorem feed_header {length : Nat} (h : length ≤ greatestLength) (rest : List UInt8) :
    (start .contentLength).feed (Utf8.bytes (Framing.header length) ++ rest) =
      (afterHeader (some length)).feed rest := by
  rw [bytes_header, List.append_assoc, List.cons_append, List.append_assoc, List.singleton_append,
    start, feed_headerLine (newline_not_mem_encode (newline_not_mem_lengthLine length)),
    headerLine_lengthLine (Nat.le_trans h (by decide)), Step.feed, feed_headerLine (by decide),
    headerLine_empty]

/-- The frame of a message behind a header. -/
theorem frame_contentLength (message : String) :
    Framing.contentLength.frame message =
      Utf8.bytes (Framing.header message.utf8ByteSize) ++ Utf8.bytes message := by
  rw [Framing.frame, Framing.pieces]
  simp only [List.flatten_cons, List.flatten_nil, List.append_nil]

/-- A message behind a header is read as it is. -/
theorem feed_frame_contentLength {message : String} (h : message.utf8ByteSize ≤ greatestLength)
    (rest : List UInt8) :
    (start .contentLength).feed (Framing.contentLength.frame message ++ rest) =
      .finished (.ok message) rest := by
  have hlength := Utf8.length_bytes message
  rw [frame_contentLength, List.append_assoc, feed_header h]
  simp only [afterHeader, if_neg (Nat.not_lt.2 h)]
  cases hsize : message.utf8ByteSize with
  | zero =>
    rw [hsize] at hlength
    have hempty : Utf8.bytes message = [] := List.length_eq_zero_iff.1 hlength
    have hbody := bodyMessage_bytes message
    rw [hempty] at hbody ⊢
    exact congrArg (Fed.finished · rest) hbody
  | succ missing =>
    rw [hsize] at hlength
    simp only [Step.feed]
    rw [feed_body hlength, List.append_nil, bodyMessage_bytes]

/-! ### Both framings -/

/-- A frame reads back as its message, and nothing behind it is looked at. -/
theorem feed_frame {framing : Framing} {message : String} (h : framing.Suits message)
    (rest : List UInt8) :
    (start framing).feed (framing.frame message ++ rest) = .finished (.ok message) rest := by
  cases framing with
  | lines =>
    obtain ⟨hline, hne, htrim⟩ := h
    rw [feed_frame_lines hline (by rwa [htrim]), htrim, String.ofList_toList]
  | contentLength => exact feed_frame_contentLength h rest

end Scan

end LspClient.Transport
