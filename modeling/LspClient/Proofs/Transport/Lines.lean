import LspClient.Proofs.Text.Blank
import LspClient.Proofs.Transport.Ending

/-!
# What is read line by line

Newlines divide bytes into lines, and the last line ends with the stream. A line that is a text
holds a message, which is the text without the white space around it; if nothing is left of the text
the line is blank, and is passed over.

A scan looks at no more than the first line (`Scan.feed_first`), so that there are three cases: the
line is blank (`Scan.final_blank`), it holds a message (`Scan.final_line`), or its bytes are no text
(`Scan.exists_final_fault`). What comes of one reading (`HasLine`) and of all of them
(`messagesIn`, `EndsIn`) follows from the cases line by line (`lines_induction`).
-/

namespace LspClient.Transport

open Scan (newline)

/-! ### Lines -/

/-- A line that is a text, without its newline. -/
structure TextLine where
  text : List Char
  newline_not_mem : '\n' ∉ text

namespace TextLine

/-- The bytes of a line, without its newline. -/
def bytes (l : TextLine) : List UInt8 :=
  Utf8.encode l.text

/-- Whether there is nothing but white space in a line. -/
def IsBlank (l : TextLine) : Prop :=
  Text.trim l.text = []

/-- The message that a line holds: what is left of it without the white space around it. -/
def Holds (l : TextLine) (message : String) : Prop :=
  Text.trim l.text = message.toList ∧ message.toList ≠ []

theorem newline_not_mem_bytes (l : TextLine) : newline ∉ l.bytes :=
  Scan.newline_not_mem_encode l.newline_not_mem

end TextLine

/-- What follows a line: its newline and other bytes, or the end of the stream. -/
inductive IsLineEnd : List UInt8 → List UInt8 → Prop where
  | newline (rest : List UInt8) : IsLineEnd (newline :: rest) rest
  | last : IsLineEnd [] []

/-- Bytes are blank lines, a line that holds a message, and what stands behind it. -/
def HasLine (bytes : List UInt8) (message : String) (rest : List UInt8) : Prop :=
  ∃ (blanks : List TextLine) (line : TextLine) (behind : List UInt8),
    bytes = blanks.flatMap (fun l ↦ l.bytes ++ [newline]) ++ (line.bytes ++ behind) ∧
      (∀ l ∈ blanks, l.IsBlank) ∧ line.Holds message ∧ IsLineEnd behind rest

/-- Whether the bytes of a line are a text. -/
def isText (line : List UInt8) : Bool :=
  (Utf8.decode line).isOk

/-- The messages in lines: the texts in front of the first line that is none, without the white
space around them, as far as anything is left. -/
def messagesIn (lines : List (List UInt8)) : List String :=
  let texts := (lines.takeWhile isText).filterMap fun line ↦ (Utf8.decode line).toOption
  ((texts.map Text.trim).filter (· ≠ [])).map String.ofList

/-- What the reading of lines ends with: a line that is no text is invalid data, and otherwise the
stream has ended. -/
def EndsIn (lines : List (List UInt8)) (e : Error) : Prop :=
  if lines.all isText then e = .closed else ∃ text, e = .io ⟨.invalidData, text⟩

/-- Whatever holds of one line, and of a line in front of others if it holds of those, holds of all
bytes. -/
theorem lines_induction {P : List UInt8 → Prop} (last : ∀ xs, newline ∉ xs → P xs)
    (line : ∀ xs ys, newline ∉ xs → P ys → P (xs ++ newline :: ys)) (bytes : List UInt8) :
    P bytes := by
  induction hlength : bytes.length using Nat.strongRecOn generalizing bytes with
  | ind n ih =>
    by_cases hnewline : newline ∈ bytes
    · obtain ⟨xs, ys, rfl, hxs⟩ := List.eq_append_cons_of_mem hnewline
      exact line xs ys hxs (ih ys.length (by simp [← hlength]; omega) ys rfl)
    · exact last bytes hnewline

/-- What can be said of a line: it is blank, it holds a message, or it is no text. -/
theorem line_cases {xs : List UInt8} (h : newline ∉ xs) :
    (∃ l : TextLine, l.bytes = xs ∧ l.IsBlank) ∨
      (∃ (l : TextLine) (message : String), l.bytes = xs ∧ l.Holds message) ∨
      ∃ fault, Utf8.decode xs = .error fault := by
  cases hdecode : Utf8.decode xs with
  | error fault => exact .inr (.inr ⟨fault, rfl⟩)
  | ok s =>
    obtain rfl := Utf8.decode_eq_ok_iff.1 hdecode
    have hline : '\n' ∉ s := fun hs ↦ h (Scan.newline_mem_encode hs)
    by_cases hblank : Text.trim s = []
    · exact .inl ⟨⟨s, hline⟩, rfl, hblank⟩
    · have hmessage : (String.ofList (Text.trim s)).toList = Text.trim s := String.toList_ofList
      exact .inr (.inl ⟨⟨s, hline⟩, String.ofList (Text.trim s), rfl, hmessage.symm,
        hmessage.symm ▸ hblank⟩)

/-! ### The first line -/

namespace Scan

variable {xs behind rest : List UInt8} {message : String}

/-- A scan judges a line at its newline. -/
theorem feed_first (h : newline ∉ xs) (ys : List UInt8) :
    (start .lines).feed (xs ++ newline :: ys) = ((line xs.reverse).byte newline).feed ys := by
  rw [start, feed_line_append h, feed_cons, List.append_nil]

/-- A last line goes up to the end of the stream. -/
theorem feed_last (h : newline ∉ xs) : (start .lines).feed xs = .unfinished (line xs.reverse) := by
  have happend := feed_line_append h [] []
  rwa [List.append_nil, List.append_nil] at happend

/-- The end of the stream ends a line, also an empty one. -/
theorem close_line (taken : List UInt8) :
    close (line taken) =
      match lineMessage taken with
      | .ok (some message) => .ok message
      | .ok none => .error .closed
      | .error e => .error e := by
  cases taken with
  | nil =>
    have hempty : lineMessage [] = .ok none := by
      rw [lineMessage, ← List.reverse_nil, ← Utf8.encode_nil, lineText_encode]
      rfl
    rw [hempty]
    rfl
  | cons b taken => rfl

/-- The newline belongs to the white space around a message. -/
theorem lineMessage_newline (s : List Char) :
    lineMessage (newline :: (Utf8.encode s).reverse) =
      lineMessage (Utf8.encode s).reverse := by
  have htrim : Text.trim (s ++ ['\n']) = Text.trim s :=
    Text.trim_append_of_blank (Text.forall_mem_of_all rfl)
  rw [newline_cons_reverse_encode, lineMessage, lineMessage, lineText_encode, lineText_encode,
    Except.map, Except.map, htrim]

theorem lineMessage_of_blank {l : TextLine} (h : l.IsBlank) :
    lineMessage l.bytes.reverse = .ok none := by
  rw [TextLine.IsBlank] at h
  rw [lineMessage, TextLine.bytes, lineText_encode, Except.map, h]

theorem lineMessage_of_holds {l : TextLine} (h : l.Holds message) :
    lineMessage l.bytes.reverse = .ok (some message) := by
  obtain ⟨htrim, hne⟩ := h
  obtain ⟨c, s, hs⟩ := List.exists_cons_of_ne_nil hne
  rw [lineMessage, TextLine.bytes, lineText_encode, Except.map, htrim, hs]
  simp only [← hs, String.ofList_toList]

/-- Bytes that are no text are none with a newline either. -/
theorem exists_lineMessage_of_fault {fault : Utf8.Fault} (h : Utf8.decode xs = .error fault) :
    (∃ text, lineMessage xs.reverse = .error (.io ⟨.invalidData, text⟩)) ∧
      ∃ text, lineMessage (newline :: xs.reverse) = .error (.io ⟨.invalidData, text⟩) := by
  constructor
  · rw [lineMessage, lineText, List.reverse_reverse, h]
    exact ⟨_, rfl⟩
  · cases hdecode : Utf8.decode (xs ++ [newline]) with
    | error fault' =>
      rw [lineMessage, lineText, List.reverse_cons, List.reverse_reverse, hdecode]
      exact ⟨_, rfl⟩
    | ok u =>
      obtain ⟨s, -, hs⟩ := exists_of_append_newline (Utf8.decode_eq_ok_iff.1 hdecode)
      rw [Utf8.decode_eq_ok_iff.2 hs] at h
      cases h

/-- A blank line makes no difference. -/
theorem final_blank {l : TextLine} (h : l.IsBlank) (ys : List UInt8) :
    (start .lines).final (l.bytes ++ newline :: ys) = (start .lines).final ys ∧
      (start .lines).left (l.bytes ++ newline :: ys) = (start .lines).left ys := by
  have hbyte : (line l.bytes.reverse).byte newline = .more (start .lines) := by
    have hmessage := lineMessage_of_blank h
    rw [TextLine.bytes] at hmessage ⊢
    rw [byte, if_pos rfl, lineMessage_newline, hmessage]
    rfl
  have hfeed := feed_first l.newline_not_mem_bytes ys
  rw [hbyte] at hfeed
  exact ⟨final_eq (.more _) hfeed, left_eq (.more _) hfeed⟩

/-- Behind the last line, if it is blank, the stream is closed. -/
theorem final_blank_last {l : TextLine} (h : l.IsBlank) :
    (start .lines).final l.bytes = .error .closed := by
  rw [final_of_unfinished (feed_last l.newline_not_mem_bytes), close_line, lineMessage_of_blank h]

/-- A message is read off its line, and what stands behind the line is left. -/
theorem final_line {l : TextLine} (h : l.Holds message) (hend : IsLineEnd behind rest) :
    (start .lines).final (l.bytes ++ behind) = .ok message ∧
      (start .lines).left (l.bytes ++ behind) = rest := by
  have hmessage := lineMessage_of_holds h
  cases hend with
  | newline =>
    have hbyte : (line l.bytes.reverse).byte newline = .ended (.ok message) := by
      rw [TextLine.bytes] at hmessage ⊢
      rw [byte, if_pos rfl, lineMessage_newline, hmessage]
    have hfeed := feed_first l.newline_not_mem_bytes rest
    rw [hbyte] at hfeed
    exact ⟨final_eq (.ended _) hfeed, left_eq (.ended _) hfeed⟩
  | last =>
    have hfeed := feed_last l.newline_not_mem_bytes
    rw [List.append_nil, final_of_unfinished hfeed, left_of_unfinished hfeed, close_line, hmessage]
    exact ⟨rfl, rfl⟩

/-- A line that is no text ends the reading. -/
theorem exists_final_fault {fault : Utf8.Fault} (hxs : newline ∉ xs)
    (h : Utf8.decode xs = .error fault) (hend : IsLineEnd behind rest) :
    ∃ text, (start .lines).final (xs ++ behind) = .error (.io ⟨.invalidData, text⟩) := by
  obtain ⟨⟨text, hlast⟩, ⟨text', hfirst⟩⟩ := exists_lineMessage_of_fault h
  cases hend with
  | newline =>
    have hbyte : (line xs.reverse).byte newline = .ended (.error (.io ⟨.invalidData, text'⟩)) := by
      rw [byte, if_pos rfl, hfirst]
    exact ⟨text', (final_eq _ (feed_first hxs rest)).trans (by rw [hbyte]; rfl)⟩
  | last =>
    exact ⟨text, by rw [List.append_nil, final_of_unfinished (feed_last hxs), close_line, hlast]⟩

/-! ### The first message -/

theorem hasLine_cons_blank {l : TextLine} (hl : l.IsBlank) {ys : List UInt8}
    (h : HasLine ys message rest) : HasLine (l.bytes ++ newline :: ys) message rest := by
  obtain ⟨blanks, line, behind, rfl, hblanks, hline⟩ := h
  refine ⟨l :: blanks, line, behind, ?_, List.forall_mem_cons.2 ⟨hl, hblanks⟩, hline⟩
  rw [List.flatMap_cons, List.append_assoc, List.append_assoc, List.singleton_append]

/-- A scan that goes through blank lines reads the line behind them. -/
theorem final_of_hasLine (h : HasLine bytes message rest) :
    (start .lines).final bytes = .ok message ∧ (start .lines).left bytes = rest := by
  obtain ⟨blanks, l, behind, rfl, hblanks, hholds, hend⟩ := h
  induction blanks with
  | nil => exact final_line hholds hend
  | cons blank blanks ih =>
    obtain ⟨hblank, hblanks⟩ := List.forall_mem_cons.1 hblanks
    obtain ⟨hfinal, hleft⟩ := ih hblanks
    rw [List.flatMap_cons, List.append_assoc, List.append_assoc, List.singleton_append,
      (final_blank hblank _).1, (final_blank hblank _).2]
    exact ⟨hfinal, hleft⟩

/-- Where no line holds a message that is reached, the reading ends with an error. -/
theorem hasLine_or_error (bytes : List UInt8) :
    (∃ message rest, HasLine bytes message rest) ∨
      ∃ e, (start .lines).final bytes = .error e := by
  induction bytes using lines_induction with
  | last xs hxs =>
    rcases line_cases hxs with ⟨l, rfl, hblank⟩ | ⟨l, message, rfl, hholds⟩ | ⟨fault, hfault⟩
    · exact .inr ⟨.closed, final_blank_last hblank⟩
    · exact .inl ⟨message, [], [], l, [], by simp, List.forall_mem_nil _, hholds, .last⟩
    · obtain ⟨text, hfinal⟩ := exists_final_fault hxs hfault .last
      rw [List.append_nil] at hfinal
      exact .inr ⟨_, hfinal⟩
  | line xs ys hxs ih =>
    rcases line_cases hxs with ⟨l, rfl, hblank⟩ | ⟨l, message, rfl, hholds⟩ | ⟨fault, hfault⟩
    · rw [(final_blank hblank ys).1]
      exact ih.imp_left fun ⟨message, rest, h⟩ ↦
        ⟨message, rest, hasLine_cons_blank hblank h⟩
    · exact .inl ⟨message, ys, [], l, newline :: ys, rfl, List.forall_mem_nil _, hholds,
        .newline ys⟩
    · obtain ⟨text, hfinal⟩ := exists_final_fault hxs hfault (.newline ys)
      exact .inr ⟨_, hfinal⟩

/-- A message is read exactly where there is a line that holds it behind blank lines. -/
theorem final_lines_eq_ok_iff :
    (start .lines).final bytes = .ok message ∧ (start .lines).left bytes = rest ↔
      HasLine bytes message rest := by
  refine ⟨fun h ↦ ?_, final_of_hasLine⟩
  rcases hasLine_or_error bytes with ⟨message', rest', hline⟩ | ⟨e, he⟩
  · obtain ⟨hfinal, hleft⟩ := final_of_hasLine hline
    obtain rfl := Except.ok.inj (hfinal.symm.trans h.1)
    obtain rfl := hleft.symm.trans h.2
    exact hline
  · rw [he] at h
    cases h.1

end Scan

/-! ### Line after line -/

section

variable {line : List UInt8} {lines : List (List UInt8)} {e : Error}

theorem isText_of_fault {fault : Utf8.Fault} (h : Utf8.decode line = .error fault) :
    isText line = false := by
  rw [isText, h]
  rfl

theorem isText_bytes (l : TextLine) : isText l.bytes = true := by
  rw [isText, TextLine.bytes, Utf8.decode_encode]
  rfl

/-- Nothing is read behind a line that is no text. -/
theorem messagesIn_of_fault {fault : Utf8.Fault} (h : Utf8.decode line = .error fault) :
    messagesIn (line :: lines) = [] := by
  rw [messagesIn, List.takeWhile_cons_of_neg (by rw [isText_of_fault h]; exact Bool.false_ne_true)]
  rfl

theorem messagesIn_of_blank {l : TextLine} (h : l.IsBlank) :
    messagesIn (l.bytes :: lines) = messagesIn lines := by
  have hdecode : Utf8.decode l.bytes = .ok l.text := Utf8.decode_encode l.text
  rw [TextLine.IsBlank] at h
  simp [messagesIn, isText_bytes, hdecode, Except.toOption, h]

theorem messagesIn_of_holds {l : TextLine} {message : String} (h : l.Holds message) :
    messagesIn (l.bytes :: lines) = message :: messagesIn lines := by
  have hdecode : Utf8.decode l.bytes = .ok l.text := Utf8.decode_encode l.text
  obtain ⟨htrim, hne⟩ := h
  simp [messagesIn, isText_bytes, hdecode, Except.toOption, htrim, hne]

theorem endsIn_of_fault {fault : Utf8.Fault} (h : Utf8.decode line = .error fault) (text : String) :
    EndsIn (line :: lines) (.io ⟨.invalidData, text⟩) := by
  rw [EndsIn, List.all_cons, isText_of_fault h]
  exact ⟨text, rfl⟩

theorem endsIn_bytes_cons {l : TextLine} : EndsIn (l.bytes :: lines) e ↔ EndsIn lines e := by
  rw [EndsIn, EndsIn, List.all_cons, isText_bytes, Bool.true_and]

end

namespace Reader

/-- A reading that ends with an error. -/
theorem readings_of_error {bytes : List UInt8} {e : Error} {r : Reader}
    (hbrings : r.Brings bytes []) (h : (Scan.start .lines).final bytes = .error e) :
    r.readings .lines 1 = [.failed e] := by
  obtain ⟨r', -, hreadings⟩ := @exists_readings_succ .lines r bytes hbrings 0
  rw [hreadings, h]
  rfl

/-- The readings of a line that holds a message, and of what stands behind it. -/
theorem exists_readings_of_holds {behind rest : List UInt8} {l : TextLine} {message : String}
    (h : l.Holds message) (hend : IsLineEnd behind rest) {r : Reader}
    (hbrings : r.Brings (l.bytes ++ behind) []) (count : Nat) :
    ∃ r' : Reader, r'.Brings rest [] ∧
      r.readings .lines (count + 1) = .done message :: r'.readings .lines count := by
  obtain ⟨hfinal, hleft⟩ := Scan.final_line h hend
  obtain ⟨r', hrest, hreadings⟩ := @exists_readings_succ .lines r _ hbrings count
  rw [hleft] at hrest
  rw [hfinal] at hreadings
  exact ⟨r', hrest, hreadings⟩

/-- Reading goes through the messages in the lines, and then ends as the lines say. -/
theorem exists_readings_lines (bytes : List UInt8) {r : Reader} (hbrings : r.Brings bytes []) :
    ∃ e, EndsIn (bytes.splitOn newline) e ∧
      r.readings .lines ((messagesIn (bytes.splitOn newline)).length + 1) =
        (messagesIn (bytes.splitOn newline)).map .done ++ [.failed e] := by
  induction bytes using lines_induction generalizing r with
  | last xs hxs =>
    rw [List.splitOn_eq_singleton hxs]
    rcases line_cases hxs with ⟨l, rfl, hblank⟩ | ⟨l, message, rfl, hholds⟩ | ⟨fault, hfault⟩
    · rw [messagesIn_of_blank hblank]
      exact ⟨.closed, endsIn_bytes_cons.2 rfl,
        readings_of_error hbrings (Scan.final_blank_last hblank)⟩
    · rw [← List.append_nil l.bytes] at hbrings
      obtain ⟨r', hrest, hreadings⟩ := exists_readings_of_holds hholds .last hbrings 1
      rw [messagesIn_of_holds hholds]
      refine ⟨.closed, endsIn_bytes_cons.2 rfl, hreadings.trans ?_⟩
      exact congrArg (.done message :: [·]) (read_exhausted .lines hrest 0)
    · obtain ⟨text, hfinal⟩ := Scan.exists_final_fault hxs hfault .last
      rw [List.append_nil] at hfinal
      rw [messagesIn_of_fault hfault]
      exact ⟨_, endsIn_of_fault hfault text, readings_of_error hbrings hfinal⟩
  | line xs ys hxs ih =>
    rw [List.splitOn_append_cons_self_of_not_mem hxs]
    rcases line_cases hxs with ⟨l, rfl, hblank⟩ | ⟨l, message, rfl, hholds⟩ | ⟨fault, hfault⟩
    · -- what is read is what a reader of the lines behind the blank one reads
      have hbehind : Brings ⟨ys, []⟩ ys [] :=
        ⟨[], List.forall_mem_nil _, rfl, List.append_nil ys⟩
      obtain ⟨hfinal, hleft⟩ := Scan.final_blank hblank ys
      obtain ⟨e, hends, hreadings⟩ := ih hbehind
      rw [messagesIn_of_blank hblank]
      exact ⟨e, endsIn_bytes_cons.2 hends,
        (readings_congr hbrings hbehind hfinal hleft _).trans hreadings⟩
    · obtain ⟨r', hrest, hreadings⟩ := exists_readings_of_holds hholds (.newline ys) hbrings
        ((messagesIn (ys.splitOn newline)).length + 1)
      obtain ⟨e, hends, hlater⟩ := ih hrest
      rw [messagesIn_of_holds hholds]
      exact ⟨e, endsIn_bytes_cons.2 hends,
        hreadings.trans (congrArg (.done message :: ·) hlater)⟩
    · obtain ⟨text, hfinal⟩ := Scan.exists_final_fault hxs hfault (.newline ys)
      rw [messagesIn_of_fault hfault]
      exact ⟨_, endsIn_of_fault hfault text, readings_of_error hbrings hfinal⟩

/-- **What is read line by line.** From a stream that ends, whatever the pieces in which its bytes
arrive, reading comes to an end. A message is read if and only if the bytes are blank lines, a line
that holds the message, and what is left for the next reading, which begins behind the newline of
that line. Reading on until the first error goes through the messages in the lines, in order, and
then ends: at a line that is no text because the data is invalid, and otherwise because the stream
is closed. -/
theorem read_lines {r : Reader} {bytes : List UInt8} (hbrings : r.Brings bytes []) (waited : Nat) :
    (r.read .lines none waited).outcome ≠ .never ∧
    (∀ message, (r.read .lines none waited).outcome = .done message →
      ∃ rest, HasLine bytes message rest) ∧
    (∀ message rest, HasLine bytes message rest →
      (r.read .lines none waited).outcome = .done message ∧
        (r.read .lines none waited).reader.Brings rest []) ∧
    ∃ e, EndsIn (bytes.splitOn newline) e ∧
      r.readings .lines ((messagesIn (bytes.splitOn newline)).length + 1) =
        (messagesIn (bytes.splitOn newline)).map .done ++ [.failed e] := by
  have houtcome : (r.read .lines none waited).outcome =
      .ofExcept ((Scan.start .lines).final bytes) := read_final hbrings waited
  refine ⟨?_, fun message h ↦ ?_, fun message rest h ↦ ?_, exists_readings_lines bytes hbrings⟩
  · rw [houtcome]
    cases (Scan.start .lines).final bytes <;> exact nofun
  · rw [houtcome] at h
    exact ⟨_, Scan.final_lines_eq_ok_iff.1 ⟨ofExcept_eq_done h, rfl⟩⟩
  · obtain ⟨hfinal, hleft⟩ := Scan.final_of_hasLine h
    have hrest : (r.read .lines none waited).reader.Brings ((Scan.start .lines).left bytes) [] :=
      brings_left hbrings waited
    rw [hleft] at hrest
    exact ⟨by rw [houtcome, hfinal]; rfl, hrest⟩

end Reader

/-- A blank line, a line with a message between white space, a line that is no text and a last line,
in two pieces that divide a character. -/
def brokenLine : Reader where
  unread := [0x0D]
  arrivals := [.data [0x0A, 0xE3, 0x80], .delay 5,
    .data [0x80, 0xC3, 0xA9, 0x20, 0x0D, 0x0A, 0xC3, 0x0A, 0x61]]

/-- The message is read, and then that the data is invalid. -/
theorem Reader.read_lines_brokenLine :
    brokenLine.Brings (brokenLine.unread ++ brokenLine.arrivals.flatMap Arrival.bytes) [] ∧
      (brokenLine.read .lines none 0).outcome = .done "é" ∧
      (brokenLine.read .lines none 0).reader.Brings [0xC3, 0x0A, 0x61] [] ∧
      ∃ text, brokenLine.readings .lines 2 =
        [.done "é", .failed (.io ⟨.invalidData, text⟩)] := by
  have hbrings :
      brokenLine.Brings (brokenLine.unread ++ brokenLine.arrivals.flatMap Arrival.bytes) [] :=
    ⟨brokenLine.arrivals, by decide, rfl, rfl⟩
  let blank : TextLine := ⟨['\r'], by decide⟩
  let line : TextLine := ⟨['\u3000', 'é', ' ', '\r'], by decide⟩
  have hline : HasLine (brokenLine.unread ++ brokenLine.arrivals.flatMap Arrival.bytes) "é"
      [0xC3, 0x0A, 0x61] :=
    ⟨[blank], line, _, by decide, by simp [blank, TextLine.IsBlank]; decide, ⟨by decide, by decide⟩,
      .newline _⟩
  obtain ⟨-, -, hread, e, hends, hreadings⟩ := Reader.read_lines hbrings 0
  obtain ⟨hdone, hrest⟩ := hread _ _ hline
  have hlines : (brokenLine.unread ++ brokenLine.arrivals.flatMap Arrival.bytes).splitOn newline =
      [blank.bytes, line.bytes, [0xC3], [0x61]] := by decide
  have hmessages : messagesIn [blank.bytes, line.bytes, [0xC3], [0x61]] = ["é"] := by
    decide +kernel
  have hall : [blank.bytes, line.bytes, [0xC3], [0x61]].all isText = false := by decide +kernel
  rw [hlines, hmessages] at hreadings
  rw [hlines, EndsIn, hall] at hends
  obtain ⟨text, rfl⟩ := hends
  exact ⟨hbrings, hdone, hrest, text, hreadings⟩

end LspClient.Transport
