import LspClient.Cli.Connection
import LspClient.Proofs.Cli.Given
import LspClient.Proofs.Cli.Parse

/-!
# Two transports on one command line

A server to start and a server to connect to exclude each other, but each part of the line is
checked by itself. A line that is carried out asks for both exactly if one is asked for before the
command and the other behind it (`parse_twoTransports`), and only then one of them is passed over,
the server to connect to.
-/

namespace LspClient.Cli

/-- What is written asks for a connection to a server. -/
def AsksTcp (items : List Item) : Prop :=
  .flag .tcp ∈ items

/-- What is written asks for a server to be started. -/
def AsksStdio (items : List Item) : Prop :=
  ∃ s, .value .stdio s ∈ items

/-- One of the two is asked for before the command, and the other behind it. -/
def TransportsApart (args : List String) : Prop :=
  ∃ items name items', Line args items (some (name, items')) ∧
    (AsksTcp items ∧ AsksStdio items' ∨ AsksStdio items ∧ AsksTcp items')

/-! ### What a part asks for -/

section

variable {place : Place} {g : Given} {items : List Item}

theorem tcp_of_ofItems (h : Given.ofItems place items = .ok g) : g.tcp = true ↔ AsksTcp items :=
  Given.tcp_of_ofItems h

theorem stdio_of_ofItems (h : Given.ofItems place items = .ok g) :
    g.stdio.isSome = true ↔ AsksStdio items := by
  rw [Option.isSome_iff_ne_none]
  exact @Given.get_ne_none_iff _ _ .stdio _ h

/-- A part that was checked does not ask for both. -/
theorem Checked.not_both {env : Environment} (hchecked : Checked env place g)
    (h : Given.ofItems place items = .ok g) : ¬(AsksTcp items ∧ AsksStdio items) := by
  rw [← tcp_of_ofItems h, ← stdio_of_ofItems h, ← Bool.and_eq_true]
  exact Bool.eq_false_iff.1 hchecked.oneTransport

end

/-! ### What a line asks for -/

/-- Of the parts that were put together each may ask. -/
theorem transports_of_merge {env : Environment} {top within : Given} {globals : Globals}
    (h : merge env top within = .ok globals) :
    (globals.tcp = true ↔ within.tcp = true ∨ top.tcp = true) ∧
      (globals.stdio.isSome = true ↔ within.stdio.isSome = true ∨ top.stdio.isSome = true) := by
  simp only [merge, bind_eq_ok_iff] at h
  obtain ⟨port, -, timeout, -, h⟩ := h
  cases h
  constructor
  · exact Bool.or_eq_true_iff
  · cases within.stdio <;> simp

/-- The posting of messages never fails for a connection that cannot be made. -/
theorem useHttp_ne_notConnected (world : Surroundings) (g : Globals) (address : String)
    (e : Transport.IoError) : (useHttp world g).1 ≠ .error (.notConnected address e) := by
  rw [useHttp]
  cases g.config.endpoint with
  | ok endpoint =>
    intro h
    cases h
  | error e' =>
    intro h
    cases h

/-- The server to connect to is passed over exactly where a server is to be started too. -/
theorem connect_passes_over_iff {g : Globals} (htcp : g.tcp = true) :
    (∀ world, connect world g = connect world { g with tcp := false }) ↔
      g.stdio.isSome = true := by
  constructor
  · intro h
    cases hstdio : g.stdio with
    | some commandLine => rfl
    | none =>
      -- where no connection can be made, only one of the two fails for it
      let refused : Transport.IoError := ⟨.connectionRefused, ""⟩
      let world : Surroundings :=
        ⟨fun _ ↦ .absent, fun _ ↦ .error refused, fun _ _ ↦ .error refused⟩
      have hconnect : (connect world g).1 =
          .error (.notConnected g.config.socketAddress refused) := by
        simp only [connect, hstdio, htcp, if_true, connectServer, world]
      have hpost : connect world { g with tcp := false } =
          useHttp world { g with tcp := false } := by
        simp only [connect, hstdio, Bool.false_eq_true, if_false]
      rw [h world, hpost] at hconnect
      exact absurd hconnect (useHttp_ne_notConnected _ _ _ _)
  · intro h world
    obtain ⟨commandLine, hstdio⟩ := Option.isSome_iff_exists.1 h
    simp only [connect, hstdio, startServer]

/-- What a line that is carried out asks for, by what is written in its parts. -/
theorem Line.transports {env : Environment} {args : List String} {items : List Item}
    {rest : Option (CommandName × List Item)} {i : Invocation} (hline : Line args items rest)
    (h : parse env args = .ok i) :
    (i.globals.tcp = true ↔ AsksTcp items ∨ ∃ w ∈ rest, AsksTcp w.2) ∧
      (i.globals.stdio.isSome = true ↔ AsksStdio items ∨ ∃ w ∈ rest, AsksStdio w.2) ∧
      ¬(AsksTcp items ∧ AsksStdio items) ∧ ∀ w ∈ rest, ¬(AsksTcp w.2 ∧ AsksStdio w.2) := by
  obtain ⟨top, htop, hchecked, hrest⟩ := hline.parse_eq_ok_iff.1 h
  cases rest with
  | none =>
    obtain ⟨htcp, hstdio⟩ := transports_of_merge hrest.1
    refine ⟨?_, ?_, hchecked.not_both htop, by simp⟩
    · rw [htcp, tcp_of_ofItems htop]
      simp
    · rw [hstdio, stdio_of_ofItems htop]
      simp
  | some w =>
    obtain ⟨within, hwithin, hchecked', hassembled⟩ := hrest
    obtain ⟨htcp, hstdio⟩ := transports_of_merge hassembled.1
    refine ⟨?_, ?_, hchecked.not_both htop, by simpa using hchecked'.not_both hwithin⟩
    · rw [htcp, or_comm, tcp_of_ofItems htop]
      simp [tcp_of_ofItems hwithin]
    · rw [hstdio, or_comm, stdio_of_ofItems htop]
      simp [stdio_of_ofItems hwithin]

/-- **Two transports on one line.** A line that is carried out asks for both transports exactly if
one is asked for before the command and the other behind it; and exactly then a connection that is
asked for is not made. On one side of the command they are never both asked for. -/
theorem parse_twoTransports {env : Environment} {args : List String} {i : Invocation}
    (h : parse env args = .ok i) :
    (i.globals.tcp = true ∧ i.globals.stdio.isSome = true ↔ TransportsApart args) ∧
    (i.globals.tcp = true ∧
        (∀ world, connect world i.globals = connect world { i.globals with tcp := false }) ↔
      TransportsApart args) ∧
    ∀ items rest, Line args items rest → ¬(AsksTcp items ∧ AsksStdio items) ∧
      ∀ w ∈ rest, ¬(AsksTcp w.2 ∧ AsksStdio w.2) := by
  have hboth : i.globals.tcp = true ∧ i.globals.stdio.isSome = true ↔ TransportsApart args := by
    constructor
    · obtain ⟨items, rest, hline⟩ := exists_line_of_parse h
      obtain ⟨htcp, hstdio, htop, hwithin⟩ := hline.transports h
      rw [htcp, hstdio]
      rintro ⟨ht | ⟨w, hw, ht⟩, hs | ⟨w', hw', hs⟩⟩
      · exact absurd ⟨ht, hs⟩ htop
      · obtain rfl := Option.mem_def.1 hw'
        exact ⟨items, _, _, hline, .inl ⟨ht, hs⟩⟩
      · obtain rfl := Option.mem_def.1 hw
        exact ⟨items, _, _, hline, .inr ⟨hs, ht⟩⟩
      · obtain rfl := Option.mem_unique hw hw'
        exact absurd ⟨ht, hs⟩ (hwithin w hw)
    · rintro ⟨items, name, items', hline, happart⟩
      obtain ⟨htcp, hstdio, -, -⟩ := hline.transports h
      rw [htcp, hstdio]
      rcases happart with ⟨ht, hs⟩ | ⟨hs, ht⟩
      · exact ⟨.inl ht, .inr ⟨_, rfl, hs⟩⟩
      · exact ⟨.inr ⟨_, rfl, ht⟩, .inl hs⟩
  refine ⟨hboth, ?_, fun items rest hline ↦ (hline.transports h).2.2⟩
  rw [← hboth]
  exact and_congr_right fun htcp ↦ connect_passes_over_iff htcp

/-- What a line asks for that names one transport on each side of the command. -/
def tcpThenStdio : Invocation where
  globals :=
    { host := "localhost", port := 9090, path := "/", timeout := none, idStyle := .uuid,
      paramsStyle := .positional, framing := .contentLength, tcp := true, stdio := some "cat",
      debug := 0 }
  command := some (.call "m" none)

theorem parse_twoTransports_tcpThenStdio :
    parse {} ["--tcp", "call", "--stdio", "cat", "m"] = .ok tcpThenStdio ∧
      TransportsApart ["--tcp", "call", "--stdio", "cat", "m"] := by
  have hparse : parse {} ["--tcp", "call", "--stdio", "cat", "m"] = .ok tcpThenStdio := by
    rfl
  exact ⟨hparse, (parse_twoTransports hparse).1.1 ⟨rfl, rfl⟩⟩

/-- Two transports are asked for, and the one of the line's first word is passed over. -/
theorem parse_tcp_passed_over :
    ∃ i, parse {} ["--tcp", "call", "--stdio", "cat", "m"] = .ok i ∧ i.globals.tcp = true ∧
      i.globals.stdio = some "cat" ∧
        ∀ world, connect world i.globals = connect world { i.globals with tcp := false } :=
  ⟨tcpThenStdio, by rfl, rfl, rfl, (connect_passes_over_iff rfl).2 rfl⟩

end LspClient.Cli
