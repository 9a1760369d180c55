import LspClient.Cli.Run
import LspClient.Proofs.Client.Answer
import LspClient.Proofs.Client.Verdict
import LspClient.Proofs.Message.Kept

/-!
# What a run reports

A run prints the result of the call that its command makes, and nothing else is ever printed
(`run_reports`). It succeeds exactly if the library does: what comes of a command is what comes of
its call or its notification over the transport that was set up (`execute_eq_done_iff`). A command
that cannot be sent leaves that transport alone (`perform_of_not_inOrder`).

The text that is printed says the result. Whether reading it gives the result back depends on the
result alone: an object that begins with the reserved name is read as what is embedded in it.
-/

namespace LspClient

/-- The result of a call is canonical, over any transport. -/
theorem Client.isCanonical_of_call {σ : Type} [Transport σ] {c : Client σ} {method : String}
    {params : Payload} {v : Json} (h : (c.call method params).outcome = .done v) :
    v.IsCanonical := by
  cases hprepare : prepare c.paramsStyle method params with
  | error e =>
    rw [call_of_error hprepare] at h
    cases h
  | ok p =>
    rw [call_of_ok hprepare, exchange_outcome] at h
    split at h
    case h_1 => exact Response.isCanonical_of_parse (judge_eq_ok (Transport.ofExcept_eq_done h))
    case h_2 => cases h
    case h_3 => cases h

namespace Cli

variable {world : Surroundings} {uuids : Nat → String} {env : Environment} {args : List String}
  {i : Invocation} {t : Connection} {notes : List Note} {method : String} {params : Payload}
  {v : Json}

/-! ### What a command asks of the library -/

namespace Command

variable {command : Command}

/-- The command calls a method: it is the handshake, or a call whose params are JSON. -/
inductive Calls : Command → String → Payload → Prop where
  | handshake (processId : UInt32) (rootPath : String) :
      Calls (.handshake processId rootPath) Lsp.initializeMethod
        (Lsp.InitializeParams.payload { processId := some processId, rootPath := some rootPath })
  | call {method : String} {params : Option String} {v : Json} (h : readParams params = .ok v) :
      Calls (.call method params) method (.json v)

/-- The command sends a notification: it is one whose params are JSON. -/
inductive Notifies : Command → String → Payload → Prop where
  | notify {method : String} {params : Option String} {v : Json} (h : readParams params = .ok v) :
      Notifies (.notify method params) method (.json v)

/-- The command can be sent: its method is not blank, and its params are JSON. -/
def InOrder : Command → Prop
  | .handshake _ _ => True
  | .call method params | .notify method params =>
    Text.isAllBlank method = false ∧ ∃ v, readParams params = .ok v

theorem Calls.perform_eq (h : command.Calls method params) (client : Client Connection) :
    perform client command = ofStep printed (client.call method params) := by
  cases h with
  | handshake => rfl
  | call h => rw [perform, h]

theorem Notifies.perform_eq (h : command.Notifies method params) (client : Client Connection) :
    perform client command = ofStep (fun _ ↦ "") (client.notify method params) := by
  cases h with
  | notify h => rw [perform, h]

/-- Any other command has params that are no JSON. -/
theorem exists_perform_eq (command : Command) :
    (∃ method params, command.Calls method params) ∨
      (∃ method params, command.Notifies method params) ∨
        ¬command.InOrder ∧ ∃ e, ∀ client, perform client command =
          ⟨.failed e, some client.transport, []⟩ := by
  cases command with
  | handshake processId rootPath => exact .inl ⟨_, _, .handshake processId rootPath⟩
  | call method params =>
    cases hparams : readParams params with
    | ok v => exact .inl ⟨_, _, .call hparams⟩
    | error e =>
      refine .inr (.inr ⟨?_, e, fun client ↦ by rw [perform, hparams]⟩)
      rintro ⟨-, v, hv⟩
      cases hparams.symm.trans hv
  | notify method params =>
    cases hparams : readParams params with
    | ok v => exact .inr (.inl ⟨_, _, .notify hparams⟩)
    | error e =>
      refine .inr (.inr ⟨?_, e, fun client ↦ by rw [perform, hparams]⟩)
      rintro ⟨-, v, hv⟩
      cases hparams.symm.trans hv

end Command

namespace Invocation

/-- The command that is carried out. -/
def asked (i : Invocation) : Command :=
  i.command.getD defaultCommand

/-- The client that carries it out, over a transport that was set up. -/
def client (i : Invocation) (uuids : Nat → String) (t : Connection) : Client Connection :=
  { transport := t, uuids, idStyle := i.globals.idStyle, paramsStyle := i.globals.paramsStyle }

/-- The library does what is asked for, over the transport that is asked for: a call brings a
result, or a notification is sent. -/
inductive Succeeds (world : Surroundings) (uuids : Nat → String) (i : Invocation) :
    Option Json → Prop where
  | call {t : Connection} {notes : List Note} {method : String} {params : Payload} {v : Json}
      (hconnect : connect world i.globals = (.ok t, notes)) (hcalls : i.asked.Calls method params)
      (hdone : ((i.client uuids t).call method params).outcome = .done v) :
      Succeeds world uuids i (some v)
  | notify {t : Connection} {notes : List Note} {method : String} {params : Payload}
      (hconnect : connect world i.globals = (.ok t, notes))
      (hnotifies : i.asked.Notifies method params)
      (hdone : ((i.client uuids t).notify method params).outcome = .done ()) :
      Succeeds world uuids i none

end Invocation

/-- What is printed for what a command brings. -/
def shown : Option Json → String
  | none => ""
  | some v => printed v

/-! ### What comes of a command -/

theorem execute_of_not_connected {e : ConnectError}
    (h : connect world i.globals = (.error e, notes)) :
    execute world uuids i = ⟨.failed (.connect e), none, notes⟩ := by
  rw [execute, h]

theorem execute_of_connected (uuids : Nat → String) (h : connect world i.globals = (.ok t, notes)) :
    (execute world uuids i).outcome = (perform (i.client uuids t) i.asked).outcome ∧
      (execute world uuids i).connection = (perform (i.client uuids t) i.asked).connection := by
  rw [execute, h]
  exact ⟨rfl, rfl⟩

/-- A step of the client that is shown is done if the step is. -/
theorem ofStep_eq_done_iff {α : Type} {print : α → String} {s : Step Connection α} {out : String} :
    (ofStep print s).outcome = .done out ↔ ∃ a, s.outcome = .done a ∧ print a = out := by
  rw [ofStep]
  cases s.outcome <;> simp [Outcome.map, Outcome.mapError]

/-- **A command succeeds exactly if the library does**, and then it prints what is shown for what
the library brings. -/
theorem execute_eq_done_iff {out : String} :
    (execute world uuids i).outcome = .done out ↔
      ∃ brought, i.Succeeds world uuids brought ∧ shown brought = out := by
  constructor
  · intro h
    rcases hconnect : connect world i.globals with ⟨e | t, notes⟩
    · rw [execute_of_not_connected hconnect] at h
      cases h
    rw [(execute_of_connected uuids hconnect).1] at h
    rcases i.asked.exists_perform_eq with ⟨method, params, hcalls⟩ | ⟨method, params, hnotifies⟩ |
      ⟨-, e, hfailed⟩
    · rw [hcalls.perform_eq, ofStep_eq_done_iff] at h
      obtain ⟨v, hdone, hout⟩ := h
      exact ⟨some v, .call hconnect hcalls hdone, hout⟩
    · rw [hnotifies.perform_eq, ofStep_eq_done_iff] at h
      obtain ⟨_, hdone, hout⟩ := h
      exact ⟨none, .notify hconnect hnotifies hdone, hout⟩
    · rw [hfailed] at h
      cases h
  · rintro ⟨brought, hsucceeds, rfl⟩
    cases hsucceeds with
    | call hconnect hcalls hdone =>
      rw [(execute_of_connected uuids hconnect).1, hcalls.perform_eq, ofStep_eq_done_iff]
      exact ⟨_, hdone, rfl⟩
    | notify hconnect hnotifies hdone =>
      rw [(execute_of_connected uuids hconnect).1, hnotifies.perform_eq, ofStep_eq_done_iff]
      exact ⟨_, hdone, rfl⟩

/-- A command that cannot be sent fails, and leaves the transport alone. -/
theorem perform_of_not_inOrder {command : Command} (h : ¬command.InOrder)
    (client : Client Connection) :
    (∃ e, (perform client command).outcome = .failed e) ∧
      (perform client command).connection = some client.transport := by
  have hblank : ∀ {method : String} {params : Option String} {v : Json}, readParams params = .ok v →
      ¬(Text.isAllBlank method = false ∧ ∃ v, readParams params = .ok v) →
      Client.prepare client.paramsStyle method (.json v) = .error .invalidMethod := by
    intro method params v hparams hnot
    rw [Client.prepare, if_pos (by simpa [hparams] using hnot)]
  rcases command.exists_perform_eq with ⟨method, params, hcalls⟩ | ⟨method, params, hnotifies⟩ |
    ⟨-, e, hfailed⟩
  · rw [hcalls.perform_eq]
    cases hcalls with
    | handshake => exact absurd trivial h
    | call hparams =>
      rw [Client.call_of_error (hblank hparams h)]
      exact ⟨⟨_, rfl⟩, congrArg some (Client.drawId_transport client)⟩
  · rw [hnotifies.perform_eq]
    cases hnotifies with
    | notify hparams =>
      rw [Client.notify, hblank hparams h]
      exact ⟨⟨_, rfl⟩, rfl⟩
  · rw [hfailed]
    exact ⟨⟨e, rfl⟩, rfl⟩

/-- A command line that asks for a command that cannot be sent leaves the transport as it was set
up. -/
theorem execute_of_not_inOrder (world : Surroundings) (uuids : Nat → String)
    (h : ¬i.asked.InOrder) :
    (∃ e, (execute world uuids i).outcome = .failed e) ∧
      (execute world uuids i).connection = (connect world i.globals).1.toOption := by
  rcases hconnect : connect world i.globals with ⟨e | t, notes⟩
  · rw [execute_of_not_connected hconnect]
    exact ⟨⟨_, rfl⟩, rfl⟩
  · obtain ⟨houtcome, hconnection⟩ := execute_of_connected uuids hconnect
    rw [houtcome, hconnection]
    exact perform_of_not_inOrder h (i.client uuids t)

/-! ### What a run prints and exits with -/

theorem run_of_parse (h : parse env args = .ok i) :
    run world uuids env args = report i.globals.debug (execute world uuids i) := by
  rw [run, h]

/-- How a run ends is told by what comes of its command. -/
theorem report_ended (debug : Nat) (p : Performance) :
    (report debug p).ended =
      match p.outcome with
      | .done stdout => some { exit := 0, stdout }
      | .failed _ => some { exit := 1, stdout := "" }
      | .never => none := by
  rw [report]
  cases p.outcome <;> rfl

theorem report_connection (debug : Nat) (p : Performance) :
    (report debug p).connection = p.connection := by
  rw [report]
  cases p.outcome <;> rfl

/-- **A run reports what comes of its command.** If the call that the command makes brings a result,
the run exits with 0 and prints the result, indented, and a newline; if a notification is sent, it
exits with 0 and prints nothing; and any other run that ends exits with 1 and prints nothing. Where
the method is blank or the params are no JSON, the transport is left as it was set up.

What is printed for a result whose numbers are integers says that result, and is read as it exactly
if no object in the result begins with the reserved name and it is not nested too deep. -/
theorem run_reports (world : Surroundings) (uuids : Nat → String) {env : Environment}
    {args : List String} {i : Invocation} (h : parse env args = .ok i) :
    (∀ v, i.Succeeds world uuids (some v) →
      (run world uuids env args).ended = some { exit := 0, stdout := v.indentedText ++ "\n" } ∧
        (v.IsIntegral → Json.IsTextOf v.indentedText.toList v ∧
          (Json.read v.indentedText = .ok v ↔ v.IsPlain ∧ v.depth ≤ Json.greatestDepth))) ∧
    (i.Succeeds world uuids none →
      (run world uuids env args).ended = some { exit := 0, stdout := "" }) ∧
    ((∀ brought, ¬i.Succeeds world uuids brought) →
      ∀ e ∈ (run world uuids env args).ended, e = { exit := 1, stdout := "" }) ∧
    (¬i.asked.InOrder →
      (run world uuids env args).ended = some { exit := 1, stdout := "" } ∧
        (run world uuids env args).connection = (connect world i.globals).1.toOption) := by
  have hended := report_ended i.globals.debug (execute world uuids i)
  rw [run_of_parse h, report_connection]
  refine ⟨fun v hv ↦ ⟨?_, fun hintegral ↦ ?_⟩, fun hnone ↦ ?_, fun hnot e he ↦ ?_, fun horder ↦ ?_⟩
  · rw [hended, execute_eq_done_iff.2 ⟨_, hv, rfl⟩]
    rfl
  · have htext := Json.isTextOf_indentedText hintegral
    cases hv with
    | call hconnect hcalls hdone =>
      exact ⟨htext, Json.read_eq_ok_iff htext (Client.isCanonical_of_call hdone)⟩
  · rw [hended, execute_eq_done_iff.2 ⟨_, hnone, rfl⟩]
    rfl
  · rw [hended] at he
    cases hdone : (execute world uuids i).outcome with
    | done out =>
      obtain ⟨brought, hsucceeds, -⟩ := execute_eq_done_iff.1 hdone
      exact absurd hsucceeds (hnot brought)
    | failed e' =>
      rw [hdone] at he
      exact (Option.some.inj he).symm
    | never =>
      rw [hdone] at he
      cases he
  · obtain ⟨⟨e, hfailed⟩, hconnection⟩ :=
      execute_of_not_inOrder world uuids horder
    rw [hended, hfailed]
    exact ⟨rfl, hconnection⟩

/-! ### A server that answers -/

/-- The transport to a server that answers the first request, if its id is `u`, with a result. -/
def answering (v : Json) : Transport.Stream where
  framing := .contentLength
  reader := ⟨Transport.Framing.contentLength.frame (resultMessage (.string "u") v), [.silence]⟩
  writer := {}

/-- That server is the one to connect to, and there is no other. -/
def oneServer (v : Json) : Surroundings where
  post _ := .absent
  connect _ := .ok (.ends (answering v).reader (answering v).writer)
  start _ _ := .error ⟨.notFound, ""⟩

/-- What a line asks for that connects to a server and calls a method without params. -/
def plainCall : Invocation where
  globals :=
    { host := "localhost", port := 9090, path := "/", timeout := none, idStyle := .uuid,
      paramsStyle := .positional, framing := .contentLength, tcp := true, stdio := none,
      debug := 0 }
  command := some (.call "m" none)

theorem parse_plainCall : parse {} ["--tcp", "call", "m"] = .ok plainCall := by
  rfl

/-- A request over a stream comes to what it comes to over the connection. -/
theorem Connection.request_stream (t : Transport.Stream) (message : String) :
    (Transport.request (Connection.stream t) message).outcome = (t.request message).outcome :=
  rfl

theorem answering_request (hintegral : v.IsIntegral)
    (hlength : (resultMessage (.string "u") v).utf8ByteSize ≤ Transport.greatestLength)
    (message : String) :
    ((answering v).request message).outcome = .done (resultMessage (.string "u") v) := by
  have hbrings : (answering v).reader.Brings
      ([].flatMap (answering v).framing.frame ++
        ((answering v).framing.frame (resultMessage (.string "u") v) ++ [])) [.silence] :=
    ⟨[], List.forall_mem_nil _, rfl, by simp [answering]⟩
  have hsuits : (answering v).framing.Suits (resultMessage (.string "u") v) :=
    Json.suits_text_object (resultMembers (.string "u") v) fun _ ↦ hlength
  have hwrite : ((answering v).writer.write none 0
      ((answering v).framing.pieces message)).outcome = .done () :=
    Transport.Writer.write_none_eq_done rfl rfl _ _
  obtain ⟨houtcome, -⟩ := Transport.Stream.request_delivered rfl rfl hwrite
    (List.forall_mem_nil _) (by decide) (isServerMessage_resultMessage hintegral) hsuits hbrings
  exact houtcome

/-- The call brings what the answer of the server is read as. -/
theorem plainCall_succeeds {w : Json} (hintegral : v.IsIntegral)
    (hlength : (resultMessage (.string "u") v).utf8ByteSize ≤ Transport.greatestLength)
    (hjudge : Client.judge (.string "u") (resultMessage (.string "u") v) = .ok w) :
    plainCall.Succeeds (oneServer v) (fun _ ↦ "u") (some w) := by
  have hconnect : connect (oneServer v) plainCall.globals = (.ok (.stream (answering v)), _) := rfl
  have hparams : readParams none = .ok .null := rfl
  have hcalls : plainCall.asked.Calls "m" (.json .null) := .call hparams
  refine .call hconnect hcalls ?_
  have hprepare : Client.prepare .positional "m" (.json .null) = .ok none := rfl
  have hid : (plainCall.client (fun _ ↦ "u") (.stream (answering v))).drawId.1 = .string "u" := rfl
  rw [Client.call_of_ok hprepare, Client.exchange_outcome, Client.drawId_transport,
    Invocation.client, Connection.request_stream, answering_request hintegral hlength]
  rw [Invocation.client] at hid
  simp only [hid, hjudge]
  rfl

/-- A result with a container in a container is printed over seven lines, and read back. -/
theorem run_reports_nested :
    parse {} ["--tcp", "call", "m"] = .ok plainCall ∧ Client.nested.IsIntegral ∧
      plainCall.Succeeds (oneServer Client.nested) (fun _ ↦ "u") (some Client.nested) ∧
      (run (oneServer Client.nested) (fun _ ↦ "u") {} ["--tcp", "call", "m"]).ended =
        some { exit := 0, stdout := Client.nested.indentedText ++ "\n" } ∧
      Client.nested.indentedText =
        "[\n  null,\n  \x7b\n    \"a\": -5,\n    \"b\": \"\\n\"\n  \x7d\n]" ∧
      Json.read Client.nested.indentedText = .ok Client.nested := by
  have hintegral : Client.nested.IsIntegral :=
    ⟨trivial, trivial, ⟨trivial, trivial, trivial, trivial⟩, trivial⟩
  have hcanonical : Client.nested.IsCanonical :=
    ⟨trivial, trivial, ⟨by decide, trivial, trivial, trivial⟩, trivial⟩
  have hplain : Client.nested.IsPlain :=
    ⟨trivial, trivial, ⟨by decide, trivial, trivial, trivial⟩, trivial⟩
  have hsucceeds := plainCall_succeeds hintegral (by decide +kernel)
    ((Client.judge_resultMessage (by decide) hintegral hcanonical (by decide)).2 hplain)
  obtain ⟨hresult, -⟩ := run_reports (oneServer Client.nested) (fun _ ↦ "u") parse_plainCall
  obtain ⟨hended, htext⟩ := hresult Client.nested hsucceeds
  exact ⟨parse_plainCall, hintegral, hsucceeds, hended, by decide +kernel,
    (htext hintegral).2.2 ⟨hplain, by decide⟩⟩

/-- An object in which the member of the reserved name comes last, as a server may write it. -/
def lateReserved : Json :=
  .object [("z", .ofNat 1), ("$serde_json::private::RawValue", .string "5")]

/-- The same object with its members in order. -/
def reservedFirst : Json :=
  .object [("$serde_json::private::RawValue", .string "5"), ("z", .ofNat 1)]

/-- That object makes it to the caller. -/
theorem judge_lateReserved :
    Client.judge (.string "u") (resultMessage (.string "u") lateReserved) = .ok reservedFirst := by
  have htext : Json.IsTextOf (resultMessage (.string "u") lateReserved).toList
      (.object (resultMembers (.string "u") lateReserved)) := by
    exact ⟨.none, _, .none, String.toList_ofList.trans (List.append_nil _).symm,
      Json.says_print ⟨trivial, trivial, trivial, ⟨trivial, trivial, trivial, trivial⟩, trivial⟩⟩
  have hplain : ∀ m ∈ Response.fields (.object (resultMembers (.string "u") lateReserved)),
      m.1 = "result" ∨ m.1 = "error" → m.2.IsPlain :=
    List.forall_mem_cons.2 ⟨fun _ ↦ trivial, List.forall_mem_cons.2 ⟨fun _ ↦ trivial,
      List.forall_mem_singleton.2 fun _ ↦ ⟨by decide, trivial, trivial, trivial⟩⟩⟩
  obtain ⟨hok, herror⟩ :=
    Response.read_of_isTextOf htext (Client.hasRoom_of_depth (by decide) hplain)
  have hform : Response.HasForm (.object (resultMembers (.string "u") lateReserved)) :=
    ⟨by decide, by decide⟩
  cases hread : Response.record.read (resultMessage (.string "u") lateReserved).toList with
  | error fault =>
    rw [hread] at herror
    exact absurd hform (herror rfl)
  | ok parts =>
    rw [hread] at hok
    obtain ⟨-, hparts⟩ := hok parts rfl
    have hjudge : Client.judge (.string "u") _ = _ :=
      Client.judge_of_parts hread hparts.error_join
    rw [hparts.id_getD, hparts.result_eq] at hjudge
    exact hjudge.trans rfl

/-- A call brings that object, and the run prints it. But what is printed is not read as the object
again. -/
theorem run_prints_unreadable :
    parse {} ["--tcp", "call", "m"] = .ok plainCall ∧
      plainCall.Succeeds (oneServer lateReserved) (fun _ ↦ "u") (some reservedFirst) ∧
      reservedFirst.IsIntegral ∧
      (run (oneServer lateReserved) (fun _ ↦ "u") {} ["--tcp", "call", "m"]).ended =
        some { exit := 0, stdout := reservedFirst.indentedText ++ "\n" } ∧
      Json.read reservedFirst.indentedText ≠ .ok reservedFirst := by
  have hlate : lateReserved.IsIntegral := ⟨trivial, trivial, trivial, trivial⟩
  have hintegral : reservedFirst.IsIntegral := ⟨trivial, trivial, trivial, trivial⟩
  have hcanonical : reservedFirst.IsCanonical := ⟨by decide, trivial, trivial, trivial⟩
  have hsucceeds := plainCall_succeeds hlate (by decide +kernel) judge_lateReserved
  refine ⟨parse_plainCall, hsucceeds, hintegral, ?_, fun hread ↦ ?_⟩
  · rw [run_of_parse parse_plainCall, report_ended, execute_eq_done_iff.2 ⟨_, hsucceeds, rfl⟩]
    rfl
  · have htext := Json.isTextOf_indentedText hintegral
    obtain ⟨hplain, -⟩ := (Json.read_eq_ok_iff htext hcanonical).1 hread
    exact hplain.1 rfl

end Cli

end LspClient
