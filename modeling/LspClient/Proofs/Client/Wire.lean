import LspClient.Proofs.Client.Run
import LspClient.Proofs.Json.Printing
import LspClient.Proofs.Text.Blank
import LspClient.Proofs.Transport.Ending

/-!
# What a run writes

A run over a stream that takes every byte writes one frame for each action that passes validation
while the transport is usable, and what it writes reads back as the messages of those actions
(`run_written`). The two directions meet in `Framing.Suits`:

* the text of an object suits both framings, because a printed value has no control characters and
  an object begins and ends with a brace (`suits_text_object`);
* a reader of frames of messages that suit the framing brings back the messages, and then finds the
  stream closed (`readings_frames`).
-/

namespace LspClient

open Transport

/-! ### Texts that can be framed -/

/-- The text of an object can be framed; only its length may be too great. -/
theorem Json.suits_text_object (ms : Json.Members) {framing : Framing}
    (hlength : framing = .contentLength → (Json.object ms).text.utf8ByteSize ≤ greatestLength) :
    framing.Suits (Json.object ms).text := by
  have htext : (Json.object ms).text.toList = print (.object ms) := String.toList_ofList
  obtain ⟨inner, hinner⟩ := exists_print_object_eq ms
  cases framing with
  | contentLength => exact hlength rfl
  | lines =>
    refine ⟨?_, ?_, ?_⟩
    · intro hmem
      rw [htext] at hmem
      exact absurd (le_of_mem_print _ _ hmem) (by decide)
    · rw [htext, hinner]
      exact List.cons_ne_nil _ _
    · rw [htext, hinner]
      exact @Text.trim_eq_of_ends [] inner [] '{' '}' (List.forall_mem_nil _)
        (List.forall_mem_nil _) (by decide) (by decide)

/-! ### Single actions -/

namespace Client

/-- The message that an event sends: one that passed validation while the transport was usable. -/
def Event.sent? (e : Event) : Option String :=
  if e.before.transport.broken then none
  else (e.before.operation? e.action).map Stream.Operation.message

/-- The messages that events send. -/
def sent (events : List Event) : List String :=
  events.filterMap Event.sent?

variable {c : Client Stream}

/-- Every message is the text of an object. -/
theorem exists_message_eq_text {a : Action} {op : Stream.Operation}
    (h : c.operation? a = some op) : ∃ ms, op.message = (Json.object ms).text := by
  rw [operation?] at h
  split at h
  · cases h
  · split at h
    · injection h with h
      exact ⟨_, congrArg Stream.Operation.message h.symm⟩
    · injection h with h
      exact ⟨_, congrArg Stream.Operation.message h.symm⟩

theorem exists_sent?_eq_text {e : Event} {m : String} (h : e.sent? = some m) :
    ∃ ms, m = (Json.object ms).text := by
  rw [Event.sent?] at h
  split at h
  · cases h
  · obtain ⟨op, hop, rfl⟩ := Option.map_eq_some_iff.1 h
    exact exists_message_eq_text hop

theorem perform_framing (c : Client Stream) (a : Action) :
    (c.perform a).client.transport.framing = c.transport.framing := by
  rw [perform_transport]
  split
  · rfl
  · exact Stream.perform_framing _ _

/-- To a stream that takes every byte an action adds the frame of what it sends, and leaves a stream
that takes every byte. -/
theorem perform_written (htakes : c.transport.TakesAll) (a : Action) :
    (c.perform a).client.transport.writer.written = c.transport.writer.written ++
        (Event.sent? ⟨c, a, c.perform a⟩).toList.flatMap c.transport.framing.frame ∧
      (c.perform a).client.transport.TakesAll := by
  have hnothing : c.transport.writer.written =
      c.transport.writer.written ++ [].flatMap c.transport.framing.frame := by
    rw [List.flatMap_nil, List.append_nil]
  rw [perform_transport]
  cases hop : c.operation? a with
  | none =>
    have hsent : Event.sent? ⟨c, a, c.perform a⟩ = none := by
      simp only [Event.sent?, hop, Option.map_none, ite_self]
    rw [hsent]
    exact ⟨hnothing, htakes⟩
  | some op =>
    cases hbroken : c.transport.broken with
    | true =>
      have hsent : Event.sent? ⟨c, a, c.perform a⟩ = none := if_pos hbroken
      rw [hsent]
      simp only [Stream.perform_of_broken hbroken]
      exact ⟨hnothing, htakes⟩
    | false =>
      have hsent : Event.sent? ⟨c, a, c.perform a⟩ = some op.message := by
        simp only [Event.sent?, hop, hbroken, Bool.false_eq_true, if_false, Option.map_some]
      rw [hsent, Option.toList_some, List.flatMap_singleton]
      exact htakes.perform hbroken op

/-! ### Runs -/

/-- To a stream that takes every byte a run adds the frames of what its events send. -/
theorem run_wire (htakes : c.transport.TakesAll) (actions : List Action) :
    (c.after (c.run actions)).transport.writer.written = c.transport.writer.written ++
      (sent (c.run actions)).flatMap c.transport.framing.frame := by
  induction actions generalizing c with
  | nil =>
    rw [run, sent, List.filterMap_nil, List.flatMap_nil, List.append_nil]
    rfl
  | cons a actions ih =>
    obtain ⟨hwritten, hnext⟩ := perform_written htakes a
    rcases run_cons c a actions with hrun | hrun
    · rw [hrun, sent, List.filterMap_cons, List.filterMap_nil]
      refine Eq.trans hwritten ?_
      cases Event.sent? ⟨c, a, c.perform a⟩ <;> rfl
    · have hafter := ih hnext
      rw [hrun, sent, List.filterMap_cons]
      refine Eq.trans hafter ?_
      rw [hwritten, perform_framing]
      cases Event.sent? ⟨c, a, c.perform a⟩ with
      | none => simp only [Option.toList_none, List.flatMap_nil, List.append_nil, sent]
      | some m =>
        simp only [Option.toList_some, List.flatMap_cons, List.flatMap_nil, List.append_nil,
          List.append_assoc, sent]

/-- **The wire holds exactly the messages sent.** On a stream that takes every byte, and if there is
a timeout has no delays that are longer, a run writes the frames of the messages that its events
send, in order, and however these bytes are delivered they read back as those messages, after which
the stream is closed. -/
theorem run_written (c : Client Stream) (actions : List Action)
    (hroom : c.transport.writer.room = none)
    (hprompt : ∀ ms, c.transport.timeout = some ms → c.transport.writer.delays.sum ≤ ms)
    (hlength : c.transport.framing = .contentLength →
      ∀ m ∈ sent (c.run actions), m.utf8ByteSize ≤ greatestLength) :
    (c.after (c.run actions)).transport.writer.written =
        c.transport.writer.written ++
          (sent (c.run actions)).flatMap c.transport.framing.frame ∧
      ∀ r : Reader, (∀ a ∈ r.arrivals, a.isDelivery = true) →
        r.incoming = (sent (c.run actions)).flatMap c.transport.framing.frame →
        r.readings c.transport.framing ((sent (c.run actions)).length + 1) =
          (sent (c.run actions)).map .done ++ [.failed .closed] := by
  refine ⟨run_wire ⟨hroom, hprompt⟩ actions, ?_⟩
  intro r harrivals hincoming
  have hbrings : r.Brings ((sent (c.run actions)).flatMap c.transport.framing.frame) [] :=
    ⟨r.arrivals, harrivals, (List.append_nil _).symm, hincoming⟩
  refine Reader.readings_frames ?_ hbrings
  intro m hm
  obtain ⟨e, -, he⟩ := List.mem_filterMap.1 hm
  obtain ⟨ms, rfl⟩ := exists_sent?_eq_text he
  exact Json.suits_text_object ms fun hframing ↦ hlength hframing _ hm

/-- A client on a stream that brings nothing and takes every byte, some of them after a while. -/
def unanswered : Client Stream where
  transport :=
    { framing := .contentLength
      timeout := some 5
      reader := ⟨[], []⟩
      writer := { delays := [3, 0, 2] } }
  uuids _ := "\n"

/-- A notification and a call, with a newline in the method of one and in the id of the other. -/
def newlines : List Action :=
  [.notify "a\nb" .nothing, .call "c" .nothing]

/-- The messages that this client sends for them. -/
def newlineMessages : List String :=
  ["\x7b\"jsonrpc\":\"2.0\",\"method\":\"a\\nb\"\x7d",
    "\x7b\"jsonrpc\":\"2.0\",\"id\":\"\\n\",\"method\":\"c\"\x7d"]

/-- What that client writes are two frames, and they read back. -/
theorem run_written_unanswered :
    unanswered.transport.writer.room = none ∧
      (∀ ms, unanswered.transport.timeout = some ms →
        unanswered.transport.writer.delays.sum ≤ ms) ∧
      (∀ m ∈ sent (unanswered.run newlines), m.utf8ByteSize ≤ greatestLength) ∧
      sent (unanswered.run newlines) = newlineMessages ∧
      (unanswered.after (unanswered.run newlines)).transport.writer.written =
        Utf8.bytes ("Content-Length: 33\r\n\r\n" ++
          "\x7b\"jsonrpc\":\"2.0\",\"method\":\"a\\nb\"\x7d" ++
          "Content-Length: 40\r\n\r\n" ++
          "\x7b\"jsonrpc\":\"2.0\",\"id\":\"\\n\",\"method\":\"c\"\x7d") ∧
      ∀ r : Reader, (∀ a ∈ r.arrivals, a.isDelivery = true) →
        r.incoming = newlineMessages.flatMap Framing.contentLength.frame →
        r.readings .contentLength 3 = newlineMessages.map .done ++ [.failed .closed] := by
  have hlength : ∀ m ∈ sent (unanswered.run newlines), m.utf8ByteSize ≤ greatestLength := by
    decide +kernel
  have hsent : sent (unanswered.run newlines) = newlineMessages := by decide +kernel
  have hframes : [] ++ newlineMessages.flatMap Framing.contentLength.frame =
      Utf8.bytes ("Content-Length: 33\r\n\r\n" ++
        "\x7b\"jsonrpc\":\"2.0\",\"method\":\"a\\nb\"\x7d" ++
        "Content-Length: 40\r\n\r\n" ++
        "\x7b\"jsonrpc\":\"2.0\",\"id\":\"\\n\",\"method\":\"c\"\x7d") := by
    decide +kernel
  have hprompt : ∀ ms, unanswered.transport.timeout = some ms →
      unanswered.transport.writer.delays.sum ≤ ms := by
    intro ms htimeout
    obtain rfl : 5 = ms := Option.some.inj htimeout
    decide
  obtain ⟨hwritten, hreads⟩ := run_written unanswered newlines rfl hprompt fun _ ↦ hlength
  rw [hsent] at hwritten hreads
  exact ⟨rfl, hprompt, hlength, hsent, hwritten.trans hframes, hreads⟩

end Client

end LspClient
