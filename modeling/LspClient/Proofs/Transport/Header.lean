import LspClient.Proofs.Transport.Ending
import LspClient.Proofs.Transport.Failure

/-!
# What is read behind a header

The form that a header has: lines with a colon, each up to its newline, and then an empty line. They
announce a length if every line that is to name one gives a number, and then it is the last of them
that counts (`Announces`).

A scan takes bytes of this form as a header and no others (`Scan.header_cases`), and behind it the
bytes that are announced (`Scan.final_afterHeader_eq_ok_iff`). What is read from a stream that ends
is therefore said by the form alone (`Reader.read_contentLength`).
-/

namespace LspClient.Transport

open Scan (newline)

/-! ### The form of a header -/

/-- A line of a header: a name and a value, which begins behind the first colon. -/
structure HeaderLine where
  name : List Char
  value : List Char
  colon_not_mem : ':' ∉ name
  newline_not_mem : '\n' ∉ name ++ value

namespace HeaderLine

/-- The text of a line, without its newline. -/
def text (l : HeaderLine) : List Char :=
  l.name ++ ':' :: l.value

/-- The bytes of a line. -/
def bytes (l : HeaderLine) : List UInt8 :=
  Utf8.encode l.text ++ [newline]

/-- Whether a line is one that is to name the length of the body. -/
def isLength (l : HeaderLine) : Bool :=
  Text.equalIgnoringAsciiCase (Text.trim l.name) Scan.lengthName

/-- A line gives a number, if its value without white space around it is one. -/
def Gives (l : HeaderLine) (n : Nat) : Prop :=
  Decimal.IsNumeral (Text.trim l.value) n ∧ n ≤ greatestNumber

/-- The length that holds after a line, `before` being the one before it. -/
def next (before : Option Nat) (l : HeaderLine) : Except Error (Option Nat) :=
  Scan.headerLength before l.text

end HeaderLine

/-- Lines announce a length: every line that is to name one gives a number, and the last of these
lines gives this one. -/
def Announces (lines : List HeaderLine) (n : Nat) : Prop :=
  (∀ l ∈ lines, l.isLength = true → ∃ m, l.Gives m) ∧
    ∃ l, (lines.filter HeaderLine.isLength).getLast? = some l ∧ l.Gives n

/-- The byte that may stand in front of a newline. -/
def carriageReturn : UInt8 :=
  0x0D

/-- An empty line, and what stands behind it. -/
inductive IsEmptyLine : List UInt8 → List UInt8 → Prop where
  /-- Carriage returns, if any, and a newline. -/
  | ended (k : Nat) (behind : List UInt8) :
      IsEmptyLine (List.replicate k carriageReturn ++ [newline]) behind
  /-- Carriage returns at the end of the stream. -/
  | last {k : Nat} (h : 0 < k) : IsEmptyLine (List.replicate k carriageReturn) []

/-- Bytes are a header that announces a length, and what stands behind it. -/
def HasHeader (bytes : List UInt8) (n : Nat) (behind : List UInt8) : Prop :=
  ∃ lines line, bytes = lines.flatMap HeaderLine.bytes ++ (line ++ behind) ∧
    Announces lines n ∧ IsEmptyLine line behind

/-! ### The length that lines announce -/

namespace HeaderLine

variable {l : HeaderLine} {before after : Option Nat}

theorem newline_not_mem_text (l : HeaderLine) : '\n' ∉ l.text := by
  have h := l.newline_not_mem
  rw [List.mem_append, not_or] at h
  simp [text, h]

/-- The value of a line is judged without the white space at its end. -/
theorem headerLength_text (before : Option Nat) (l : HeaderLine) {value : List Char}
    (h : Text.trim value = Text.trim l.value) :
    Scan.headerLength before (l.name ++ ':' :: value) = l.next before := by
  simp only [next, text, Scan.headerLength, Text.splitAtFirst_append l.colon_not_mem, h]

theorem next_of_isLength (h : l.isLength = true) :
    l.next before = .ok after ↔ ∃ n, l.Gives n ∧ after = some n := by
  rw [isLength] at h
  simp only [next, text, Scan.headerLength, Text.splitAtFirst_append l.colon_not_mem, h, if_true,
    Gives, ← Decimal.read_eq_ok_iff]
  cases Decimal.read greatestNumber (Text.trim l.value) with
  | ok n => simp [eq_comm]
  | error refusal => simp

theorem next_of_not_isLength (h : ¬l.isLength = true) : l.next before = .ok before := by
  rw [isLength] at h
  simp only [next, text, Scan.headerLength, Text.splitAtFirst_append l.colon_not_mem, if_neg h]

theorem foldlM_next_cons {lines : List HeaderLine} :
    (l :: lines).foldlM next before = .ok after ↔
      ∃ length, l.next before = .ok length ∧ lines.foldlM next length = .ok after := by
  rw [List.foldlM_cons]
  cases l.next before with
  | ok length => simp [bind, Except.bind]
  | error e => simp [bind, Except.bind]

/-- Lines are taken if each that is to name a length gives a number, and then the length is that of
the last of these, or the one before if there are none. -/
theorem foldlM_next_eq_ok_iff {lines : List HeaderLine} :
    lines.foldlM next before = .ok after ↔
      (∀ l ∈ lines, l.isLength = true → ∃ m, l.Gives m) ∧
        match (lines.filter isLength).getLast? with
        | none => after = before
        | some l => ∃ n, l.Gives n ∧ after = some n := by
  induction lines generalizing before with
  | nil =>
    exact ⟨fun h ↦ ⟨List.forall_mem_nil _, (Except.ok.inj h).symm⟩,
      fun h ↦ congrArg Except.ok h.2.symm⟩
  | cons l lines ih =>
    simp only [foldlM_next_cons, List.forall_mem_cons, ih]
    by_cases hl : l.isLength = true
    · simp only [next_of_isLength hl, List.filter_cons_of_pos hl, List.getLast?_cons, hl,
        forall_const]
      cases (lines.filter isLength).getLast? with
      | none =>
        constructor
        · rintro ⟨_, ⟨n, hn, rfl⟩, hlines, rfl⟩
          exact ⟨⟨⟨n, hn⟩, hlines⟩, n, hn, rfl⟩
        · rintro ⟨⟨-, hlines⟩, n, hn, rfl⟩
          exact ⟨some n, ⟨n, hn, rfl⟩, hlines, rfl⟩
      | some l' =>
        constructor
        · rintro ⟨_, ⟨n, hn, rfl⟩, hlines, hlast⟩
          exact ⟨⟨⟨n, hn⟩, hlines⟩, hlast⟩
        · rintro ⟨⟨⟨n, hn⟩, hlines⟩, hlast⟩
          exact ⟨some n, ⟨n, hn, rfl⟩, hlines, hlast⟩
    · simp only [next_of_not_isLength hl, List.filter_cons_of_neg hl, hl, Bool.false_eq_true,
        false_implies, true_and, Except.ok.injEq, exists_eq_left']

/-- Lines announce a length if it is what a scan makes of them. -/
theorem foldlM_next_eq_some_iff {lines : List HeaderLine} {n : Nat} :
    lines.foldlM next none = .ok (some n) ↔ Announces lines n := by
  rw [foldlM_next_eq_ok_iff, Announces]
  cases (lines.filter isLength).getLast? with
  | none => simp
  | some l => simp

end HeaderLine

/-! ### The lines of a header -/

namespace Scan

variable {before after : Option Nat} {bytes behind rest : List UInt8}

theorem encode_replicate (k : Nat) :
    Utf8.encode (List.replicate k '\r') = List.replicate k carriageReturn := by
  induction k with
  | zero => rfl
  | succ k ih =>
    rw [List.replicate_succ, List.replicate_succ, Utf8.encode_cons, ih]
    rfl

theorem newline_not_mem_replicate (k : Nat) : '\n' ∉ List.replicate k '\r' :=
  fun h ↦ absurd (List.eq_of_mem_replicate h) (by decide)

/-- The newline makes no difference to what is left of a line. -/
theorem dropLineEnd_append_newline (s : List Char) : dropLineEnd (s ++ ['\n']) = dropLineEnd s :=
  Text.dropEndWhile_append_of_all (Text.forall_mem_of_all rfl)

theorem dropLineEnd_replicate (k : Nat) : dropLineEnd (List.replicate k '\r') = [] := by
  rw [← List.nil_append (List.replicate k '\r'), dropLineEnd,
    Text.dropEndWhile_append_of_all fun c hc ↦ by rw [List.eq_of_mem_replicate hc]; rfl]
  rfl

/-- A line of which nothing is left is one of carriage returns. -/
theorem exists_of_dropLineEnd_eq_nil {s : List Char} (hline : '\n' ∉ s) (h : dropLineEnd s = []) :
    ∃ k, s = List.replicate k '\r' := by
  obtain ⟨t, ht, hdrop⟩ := Text.exists_dropEndWhile_append (fun c ↦ c == '\r' || c == '\n') s
  rw [← dropLineEnd, h, List.nil_append] at ht
  subst ht
  refine ⟨s.length, List.eq_replicate_iff.2 ⟨rfl, fun c hc ↦ ?_⟩⟩
  have hc' := hdrop c hc
  rw [Bool.or_eq_true, beq_iff_eq, beq_iff_eq] at hc'
  exact hc'.resolve_right fun hn ↦ hline (hn ▸ hc)

/-- What is left of a line with a colon. -/
theorem dropLineEnd_text (l : HeaderLine) :
    dropLineEnd l.text = l.name ++ ':' :: dropLineEnd l.value :=
  Text.dropEndWhile_append_cons rfl l.name l.value

/-- The end of a line belongs to the white space around its value. -/
theorem trim_dropLineEnd (s : List Char) : Text.trim (dropLineEnd s) = Text.trim s := by
  obtain ⟨t, ht, hdrop⟩ := Text.exists_dropEndWhile_append (fun c ↦ c == '\r' || c == '\n') s
  have hblank : ∀ c ∈ t, Text.isBlank c = true := by
    intro c hc
    have hc' := hdrop c hc
    rw [Bool.or_eq_true, beq_iff_eq, beq_iff_eq] at hc'
    rcases hc' with rfl | rfl <;> rfl
  rw [← dropLineEnd] at ht
  calc Text.trim (dropLineEnd s)
      = Text.trim (dropLineEnd s ++ t) := (Text.trim_append_of_blank hblank).symm
    _ = Text.trim s := by rw [← ht]

/-- A line of carriage returns ends the header. -/
theorem headerLine_blank {s : List Char} (h : dropLineEnd s = []) (before : Option Nat) :
    headerLine before (Utf8.encode s).reverse = afterHeader before := by
  rw [headerLine, lineText_encode]
  simp only [h]

/-- A line with a colon is judged by its name and its value. -/
theorem headerLine_text {s : List Char} (l : HeaderLine) (h : dropLineEnd s = dropLineEnd l.text)
    (before : Option Nat) :
    headerLine before (Utf8.encode s).reverse =
      match l.next before with
      | .ok after => .more (.header after [])
      | .error e => .ended (.error e) := by
  have hnext := l.headerLength_text before (trim_dropLineEnd l.value)
  rw [← dropLineEnd_text] at hnext
  obtain ⟨c, t, ht⟩ := List.exists_cons_of_ne_nil
    (show dropLineEnd l.text ≠ [] by simp [dropLineEnd_text])
  rw [ht] at hnext
  rw [headerLine, lineText_encode]
  cases hlength : headerLength before (c :: t) <;> simp only [h, ht, ← hnext, hlength]

/-- Any other line is refused. -/
theorem exists_headerLine_of_not_mem {s : List Char} (hne : dropLineEnd s ≠ [])
    (hcolon : ':' ∉ dropLineEnd s) (before : Option Nat) :
    ∃ e, headerLine before (Utf8.encode s).reverse = .ended (.error e) := by
  have hlength : ∃ e, headerLength before (dropLineEnd s) = .error e := by
    rw [headerLength, Text.splitAtFirst_eq_none_iff.2 hcolon]
    exact ⟨_, rfl⟩
  obtain ⟨e, he⟩ := hlength
  obtain ⟨c, t, ht⟩ := List.exists_cons_of_ne_nil hne
  rw [headerLine, lineText_encode]
  simp only [ht] at he ⊢
  rw [he]
  exact ⟨e, rfl⟩

/-- Without a newline all bytes belong to one line of the header. -/
theorem feed_header_eq (h : newline ∉ bytes) (length : Option Nat) :
    (header length []).feed bytes = .unfinished (header length bytes.reverse) := by
  have happend := feed_header_append h length [] []
  rwa [List.append_nil, List.append_nil] at happend

/-- Lines are taken one after another. -/
theorem feed_lines {lines : List HeaderLine}
    (h : lines.foldlM HeaderLine.next before = .ok after) (behind : List UInt8) :
    (header before []).feed (lines.flatMap HeaderLine.bytes ++ behind) =
      (header after []).feed behind := by
  induction lines generalizing before with
  | nil =>
    cases h
    rfl
  | cons l lines ih =>
    obtain ⟨length, hl, hlines⟩ := HeaderLine.foldlM_next_cons.1 h
    rw [List.flatMap_cons, HeaderLine.bytes, List.append_assoc, List.append_assoc,
      List.singleton_append, feed_headerLine (newline_not_mem_encode l.newline_not_mem_text),
      newline_cons_reverse_encode, headerLine_text l (dropLineEnd_append_newline l.text), hl]
    exact ih hlines

/-- What a line of the header leads to is no complete message. -/
theorem close_of_headerLine {length : Option Nat} {taken : List UInt8} {next : Scan}
    (h : headerLine length taken = .more next) : next.close = .error .closed := by
  rw [headerLine] at h
  split at h
  · cases h
  · split at h
    · rw [afterHeader.eq_def] at h
      split at h
      · cases h
      · split at h
        · cases h
        · split at h
          · cases h
          · cases h; rfl
    · split at h
      · cases h; rfl
      · cases h

/-- The end of the stream ends a line of the header, and no bytes come after it. -/
theorem close_header {taken : List UInt8} (h : taken ≠ []) (length : Option Nat) :
    close (header length taken) = (headerLine length taken).final [] := by
  obtain ⟨b, taken, rfl⟩ := List.exists_cons_of_ne_nil h
  rw [close]
  · cases hline : headerLine length (b :: taken) with
    | ended result => rfl
    | more next => exact (close_of_headerLine hline).symm
  · intro hnil
    cases hnil

/-- An empty line ends the header. -/
theorem final_emptyLine {line : List UInt8} (h : IsEmptyLine line behind) (length : Option Nat) :
    (header length []).final (line ++ behind) = (afterHeader length).final behind ∧
      (header length []).left (line ++ behind) = (afterHeader length).left behind := by
  cases h with
  | ended k =>
    have hfeed : (header length []).feed (List.replicate k carriageReturn ++ [newline] ++ behind) =
        (afterHeader length).feed behind := by
      rw [← encode_replicate, List.append_assoc, List.singleton_append,
        feed_headerLine (newline_not_mem_encode (newline_not_mem_replicate k)),
        newline_cons_reverse_encode,
        headerLine_blank (by rw [dropLineEnd_append_newline, dropLineEnd_replicate])]
    exact ⟨final_eq _ hfeed, left_eq _ hfeed⟩
  | @last k hk =>
    have hfeed := feed_header_eq (newline_not_mem_encode (newline_not_mem_replicate k)) length
    rw [List.append_nil, ← encode_replicate, final_of_unfinished hfeed, left_of_unfinished hfeed,
      Step.left_nil,
      close_header (by simp [encode_replicate, Nat.ne_of_gt hk]),
      headerLine_blank (dropLineEnd_replicate k)]
    exact ⟨rfl, rfl⟩

/-- What a line of the header leads to: it is blank, or it has a colon, or it is refused. The same
holds of the line with its newline. -/
theorem headerLine_cases {s u : List Char} (hline : '\n' ∉ s)
    (hdrop : dropLineEnd u = dropLineEnd s) (before : Option Nat) :
    (∃ k, s = List.replicate k '\r') ∨
    (∃ (l : HeaderLine) (after : Option Nat), l.text = s ∧ l.next before = .ok after ∧
      headerLine before (Utf8.encode u).reverse = .more (.header after [])) ∨
    ∃ e, headerLine before (Utf8.encode u).reverse = .ended (.error e) := by
  by_cases hnil : dropLineEnd s = []
  · exact .inl (exists_of_dropLineEnd_eq_nil hline hnil)
  refine .inr ?_
  by_cases hcolon : ':' ∈ s
  · obtain ⟨name, value, rfl, hname⟩ := List.eq_append_cons_of_mem hcolon
    have hvalue : '\n' ∉ name ++ value := fun h ↦ hline (by simp at h ⊢; exact h)
    let l : HeaderLine := ⟨name, value, hname, hvalue⟩
    have htext := headerLine_text l hdrop before
    cases hnext : l.next before with
    | ok after => exact .inl ⟨l, after, rfl, hnext, by rw [htext, hnext]⟩
    | error e => exact .inr ⟨e, by rw [htext, hnext]⟩
  · obtain ⟨t, ht, -⟩ := Text.exists_dropEndWhile_append (fun c ↦ c == '\r' || c == '\n') s
    rw [← dropLineEnd] at ht
    refine .inr (exists_headerLine_of_not_mem (hdrop ▸ hnil) ?_ before)
    rw [hdrop]
    exact fun h ↦ hcolon (ht ▸ List.mem_append_left t h)

/-- A line whose bytes are no text is refused. -/
theorem exists_headerLine_of_decode {taken : List UInt8} {fault : Utf8.Fault}
    (h : Utf8.decode taken.reverse = .error fault) (before : Option Nat) :
    ∃ e, headerLine before taken = .ended (.error e) := by
  rw [headerLine, lineText, h]
  exact ⟨_, rfl⟩

/-- What a scan takes for a header has its form, and anything else is an error. -/
theorem header_cases (before : Option Nat) (bytes : List UInt8) :
    (∃ (lines : List HeaderLine) (line behind : List UInt8) (after : Option Nat),
      bytes = lines.flatMap HeaderLine.bytes ++ (line ++ behind) ∧ IsEmptyLine line behind ∧
        lines.foldlM HeaderLine.next before = .ok after) ∨
    ∃ e, (header before []).final bytes = .error e := by
  induction hlength : bytes.length using Nat.strongRecOn generalizing before bytes with
  | ind n ih =>
    by_cases hnewline : newline ∈ bytes
    · obtain ⟨xs, ys, rfl, hxs⟩ := List.eq_append_cons_of_mem hnewline
      have hfinal := final_eq _ (feed_headerLine hxs before ys)
      cases hdecode : Utf8.decode (newline :: xs.reverse).reverse with
      | error fault =>
        obtain ⟨e, he⟩ := exists_headerLine_of_decode hdecode before
        exact .inr ⟨e, by rw [hfinal, he]; rfl⟩
      | ok u =>
        rw [List.reverse_cons, List.reverse_reverse, Utf8.decode_eq_ok_iff] at hdecode
        obtain ⟨s, rfl, rfl⟩ := exists_of_append_newline hdecode
        have hline : '\n' ∉ s := fun h ↦ hxs (newline_mem_encode h)
        rw [newline_cons_reverse_encode] at hfinal
        rcases headerLine_cases hline (dropLineEnd_append_newline s) before with
          ⟨k, rfl⟩ | ⟨l, after, rfl, hnext, hmore⟩ | ⟨e, he⟩
        · refine .inl ⟨[], _, ys, before, ?_, .ended k ys, rfl⟩
          rw [encode_replicate]
          simp
        · rw [hmore] at hfinal
          rcases ih ys.length (by simp [← hlength]; omega) after ys rfl with
            ⟨lines, line, behind, after', rfl, hempty, hlines⟩ | ⟨e, he⟩
          · refine .inl ⟨l :: lines, line, behind, after', ?_, hempty,
              HeaderLine.foldlM_next_cons.2 ⟨after, hnext, hlines⟩⟩
            simp [HeaderLine.bytes]
          · exact .inr ⟨e, by rw [hfinal]; exact he⟩
        · exact .inr ⟨e, by rw [hfinal, he]; rfl⟩
    · by_cases hne : bytes = []
      · subst hne
        exact .inr ⟨.closed, rfl⟩
      have hfinal : (header before []).final bytes =
          (headerLine before bytes.reverse).final [] := by
        rw [final_of_unfinished (feed_header_eq hnewline before), close_header (by simpa using hne)]
      cases hdecode : Utf8.decode bytes.reverse.reverse with
      | error fault =>
        obtain ⟨e, he⟩ := exists_headerLine_of_decode hdecode before
        exact .inr ⟨e, by rw [hfinal, he]; rfl⟩
      | ok s =>
        rw [List.reverse_reverse, Utf8.decode_eq_ok_iff] at hdecode
        subst hdecode
        have hline : '\n' ∉ s := fun h ↦ hnewline (newline_mem_encode h)
        rcases headerLine_cases hline rfl before with
          ⟨k, rfl⟩ | ⟨l, after, rfl, hnext, hmore⟩ | ⟨e, he⟩
        · rw [encode_replicate] at hne ⊢
          have hk : 0 < k := Nat.pos_of_ne_zero fun hk ↦ hne (by rw [hk, List.replicate_zero])
          exact .inl ⟨[], _, [], before, by simp, .last hk, rfl⟩
        · exact .inr ⟨_, by rw [hfinal, hmore]; rfl⟩
        · exact .inr ⟨e, by rw [hfinal, he]; rfl⟩

/-- A scan that finds a header goes on behind it with the length that it announces. -/
theorem final_of_hasHeader {length : Nat} (h : HasHeader bytes length behind) :
    (start .contentLength).final bytes = (afterHeader (some length)).final behind ∧
      (start .contentLength).left bytes = (afterHeader (some length)).left behind := by
  obtain ⟨lines, line, rfl, hlines, hempty⟩ := h
  have hfeed := feed_lines (HeaderLine.foldlM_next_eq_some_iff.2 hlines) (line ++ behind)
  obtain ⟨hfinal, hleft⟩ := final_emptyLine hempty (some length)
  exact ⟨(final_eq (.more _) hfeed).trans hfinal,
    (left_eq (.more _) hfeed).trans hleft⟩

/-- Where a message is read, there is a header. -/
theorem hasHeader_of_final {message : String}
    (h : (start .contentLength).final bytes = .ok message) :
    ∃ length behind, HasHeader bytes length behind := by
  rcases header_cases none bytes with
    ⟨lines, line, behind, after, rfl, hempty, hlines⟩ | ⟨e, he⟩
  · have hfinal := (final_eq (.more _) (feed_lines hlines (line ++ behind))).trans
      (final_emptyLine hempty after).1
    cases after with
    | none =>
      rw [start, hfinal] at h
      cases h
    | some length =>
      exact ⟨length, behind, lines, line, rfl, HeaderLine.foldlM_next_eq_some_iff.1 hlines, hempty⟩
  · rw [start, he] at h
    cases h

/-! ### The body -/

theorem bodyMessage_eq_ok_iff {xs : List UInt8} {message : String} :
    bodyMessage xs.reverse = .ok message ↔ xs = Utf8.bytes message := by
  rw [bodyMessage, List.reverse_reverse, Utf8.bytes, ← Utf8.decode_eq_ok_iff]
  cases Utf8.decode xs with
  | ok s => simp [← String.toList_inj]
  | error fault => simp

/-- A body takes as many bytes as were announced. -/
theorem feed_afterHeader {length : Nat} {xs : List UInt8} (hgreatest : length ≤ greatestLength)
    (hlength : xs.length = length) (rest : List UInt8) :
    (afterHeader (some length)).feed (xs ++ rest) = .finished (bodyMessage xs.reverse) rest := by
  simp only [afterHeader, if_neg (Nat.not_lt.2 hgreatest)]
  cases length with
  | zero =>
    rw [List.length_eq_zero_iff.1 hlength]
    rfl
  | succ missing =>
    simp only [Step.feed]
    rw [feed_body hlength, List.append_nil]

theorem Step.final_of_finished {step : Step} {result : Except Error String}
    (h : step.feed bytes = .finished result rest) :
    step.final bytes = result ∧ step.left bytes = rest := by
  cases step with
  | more scan => exact ⟨Scan.final_of_finished h, Scan.left_of_finished h⟩
  | ended result' =>
    injection h with hresult hrest
    exact ⟨hresult, hrest⟩

/-- Behind a header, a text of as many bytes as were announced is read, if they are not too many. -/
theorem final_afterHeader_eq_ok_iff {length : Nat} {message : String} :
    (afterHeader (some length)).final behind = .ok message ∧
        (afterHeader (some length)).left behind = rest ↔
      length ≤ greatestLength ∧ behind = Utf8.bytes message ++ rest ∧
        (Utf8.bytes message).length = length := by
  constructor
  · rintro ⟨hfinal, rfl⟩
    have hgreatest : length ≤ greatestLength := by
      refine Nat.le_of_not_lt fun hlt ↦ ?_
      simp only [afterHeader, if_pos hlt] at hfinal
      cases hfinal
    have henough : length ≤ behind.length := by
      refine Nat.le_of_not_lt fun hlt ↦ ?_
      obtain ⟨e, he⟩ := exists_final_afterHeader hlt
      rw [he] at hfinal
      cases hfinal
    have htake : (behind.take length).length = length := List.length_take_of_le henough
    have hfeed := feed_afterHeader hgreatest htake (behind.drop length)
    rw [List.take_append_drop] at hfeed
    obtain ⟨hresult, hrest⟩ := Step.final_of_finished hfeed
    rw [hresult, bodyMessage_eq_ok_iff] at hfinal
    rw [hrest, ← hfinal, List.take_append_drop]
    exact ⟨hgreatest, rfl, htake⟩
  · rintro ⟨hgreatest, rfl, hlength⟩
    obtain ⟨hresult, hrest⟩ := Step.final_of_finished (feed_afterHeader hgreatest hlength rest)
    exact ⟨hresult.trans (bodyMessage_bytes message), hrest⟩

/-- What is read from a stream that ends: a message of the announced length behind a header. -/
theorem final_contentLength_eq_ok_iff {message : String} :
    (start .contentLength).final bytes = .ok message ∧ (start .contentLength).left bytes = rest ↔
      ∃ length, HasHeader bytes length (Utf8.bytes message ++ rest) ∧ length ≤ greatestLength ∧
        (Utf8.bytes message).length = length := by
  constructor
  · intro h
    obtain ⟨length, behind, hheader⟩ := hasHeader_of_final h.1
    obtain ⟨hfinal, hleft⟩ := final_of_hasHeader hheader
    rw [hfinal, hleft] at h
    obtain ⟨hgreatest, rfl, hlength⟩ := final_afterHeader_eq_ok_iff.1 h
    exact ⟨length, hheader, hgreatest, hlength⟩
  · rintro ⟨length, hheader, hgreatest, hlength⟩
    obtain ⟨hfinal, hleft⟩ := final_of_hasHeader hheader
    rw [hfinal, hleft]
    exact final_afterHeader_eq_ok_iff.2 ⟨hgreatest, rfl, hlength⟩

end Scan

/-! ### Reading -/

/-- **What is read behind a header.** From a stream that ends, whatever the pieces in which its
bytes arrive, a message is read if and only if the bytes are a header, the message of exactly the
length that the header announces, and what is left for the next reading. A length that is too great
is refused behind the header, before anything else is taken. Whatever the bytes are, reading comes
to an end, and without a message it is an error of the stream or of the framing. -/
theorem Reader.read_contentLength {r : Reader} {bytes : List UInt8} (hbrings : r.Brings bytes [])
    (waited : Nat) :
    (∀ (message : String) (rest : List UInt8),
      (r.read .contentLength none waited).outcome = .done message ∧
          (r.read .contentLength none waited).reader.Brings rest [] ↔
        ∃ length, HasHeader bytes length (Utf8.bytes message ++ rest) ∧ length ≤ greatestLength ∧
          (Utf8.bytes message).length = length) ∧
    (∀ (length : Nat) (behind : List UInt8), HasHeader bytes length behind →
      greatestLength < length →
        (∃ text, (r.read .contentLength none waited).outcome = .failed (.framing text)) ∧
          (r.read .contentLength none waited).reader.Brings behind []) ∧
    ((∃ message, (r.read .contentLength none waited).outcome = .done message) ∨
      ∃ e, (r.read .contentLength none waited).outcome = .failed e ∧ e.isOfReading = true) := by
  have houtcome : (r.read .contentLength none waited).outcome =
      .ofExcept ((Scan.start .contentLength).final bytes) := read_final hbrings waited
  have hleft : (r.read .contentLength none waited).reader.Brings
      ((Scan.start .contentLength).left bytes) [] := brings_left hbrings waited
  refine ⟨fun message rest ↦ ?_, fun length behind hheader hlt ↦ ?_, ?_⟩
  · have hrest : (r.read .contentLength none waited).reader.Brings rest [] ↔
        (Scan.start .contentLength).left bytes = rest :=
      ⟨fun h ↦ hleft.unique h, fun h ↦ h ▸ hleft⟩
    rw [← Scan.final_contentLength_eq_ok_iff, hrest, houtcome]
    exact and_congr_left' ⟨ofExcept_eq_done, fun h ↦ by rw [h]; rfl⟩
  · obtain ⟨hfinal, hbehind⟩ := Scan.final_of_hasHeader hheader
    simp only [Scan.afterHeader, if_pos hlt] at hfinal hbehind
    rw [houtcome, hfinal]
    rw [hbehind] at hleft
    exact ⟨⟨_, rfl⟩, hleft⟩
  · cases hfinal : (Scan.start .contentLength).final bytes with
    | ok message => exact .inl ⟨message, by rw [houtcome, hfinal]; rfl⟩
    | error e =>
      rw [hfinal] at houtcome
      exact .inr ⟨e, houtcome, readOn_error houtcome⟩

/-- A message behind a header that names two lengths, and a byte behind it, in two pieces. -/
def twoLengths : Reader where
  unread := []
  arrivals := [.data (Utf8.bytes "Content-Length: 1\nKind: a:b\r\nCONTENT-"), .delay 5,
    .data (Utf8.bytes "length : +3 \r\n\r\nabcZ")]

/-- The last length counts, in whatever way it is written. -/
theorem Reader.read_contentLength_twoLengths :
    (twoLengths.read .contentLength none 0).outcome = .done "abc" ∧
      (twoLengths.read .contentLength none 0).reader.Brings (Utf8.bytes "Z") [] := by
  have hbrings : twoLengths.Brings
      (Utf8.bytes "Content-Length: 1\nKind: a:b\r\nCONTENT-length : +3 \r\n\r\nabcZ") [] :=
    ⟨twoLengths.arrivals, by decide, rfl, rfl⟩
  let first : HeaderLine := ⟨"Content-Length".toList, " 1".toList, by decide, by decide⟩
  let kind : HeaderLine := ⟨"Kind".toList, " a:b\r".toList, by decide, by decide⟩
  let last : HeaderLine := ⟨"CONTENT-length ".toList, " +3 \r".toList, by decide, by decide⟩
  have hannounces : Announces [first, kind, last] 3 :=
    HeaderLine.foldlM_next_eq_some_iff.1 (by rfl)
  exact ((Reader.read_contentLength hbrings 0).1 "abc" (Utf8.bytes "Z")).2
    ⟨3, ⟨_, _, by rfl, hannounces, .ended 1 _⟩, by decide, by rfl⟩

end LspClient.Transport
