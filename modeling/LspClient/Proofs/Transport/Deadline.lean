import LspClient.Proofs.Transport.Liveness
import LspClient.Proofs.Transport.Pauses

/-!
# A timeout only cuts off

A request with a timeout is compared with the same request without one, from the same transport
(`request_withTimeout`). If the request without a timeout is over in time, the timeout changes
nothing (`TimeoutKeeps`). If it takes longer, or is never over, the request with the timeout fails
for that reason and leaves the transport broken (`TimeoutCuts`). The time is that of the writing and
the reading together.

The comparison is not only for a server whose bytes come to an end. Of what a server sends that
never stops, so much decides, and what comes after it makes no difference. Nor is it only for a
request that is over: one that has taken the lock returns before its time is up, whatever happens.
-/

namespace LspClient.Transport.Stream

variable {s : Stream} {ms : Nat} {message : String} {outcome : Outcome Error String}

/-- A timeout changes nothing: with it a request comes to what it comes to without it. -/
structure TimeoutKeeps (s : Stream) (ms : Nat) (message : String)
    (outcome : Outcome Error String) : Prop where
  /-- The outcome without the timeout. -/
  free : ((s.withTimeout none).request message).outcome = outcome
  /-- The outcome with it is the same. -/
  limited : ((s.withTimeout (some ms)).request message).outcome = outcome
  notes : ((s.withTimeout (some ms)).request message).notes =
    ((s.withTimeout none).request message).notes
  /-- So are what is written, what is still to come, and whether the transport is broken. -/
  transport : ((s.withTimeout (some ms)).request message).transport =
    ((s.withTimeout none).request message).transport.withTimeout (some ms)

/-- A timeout cuts a request off. -/
structure TimeoutCuts (s : Stream) (ms : Nat) (message : String) : Prop where
  outcome : ((s.withTimeout (some ms)).request message).outcome = .failed (.timeout ms)
  broken : ((s.withTimeout (some ms)).request message).transport.broken = true

/-- A request that is over in time is not changed by a timeout. -/
theorem timeoutKeeps_of_waited_le (h : s.broken = false)
    (houtcome : (s.exchange none message).outcome = outcome) (hover : outcome ≠ .never)
    (hin : (s.exchange none message).waited ≤ ms) : s.TimeoutKeeps ms message outcome := by
  subst houtcome
  have hfree := request_withTimeout_of_usable h none message
  have hlimited := request_withTimeout_of_usable h (some ms) message
  have hcut : cutOff (some ms) (s.exchange none message).outcome =
      (s.exchange none message).outcome := by
    cases houtcome : (s.exchange none message).outcome with
    | done body => rfl
    | failed e => rfl
    | never => exact absurd houtcome hover
  simp only [cutOff_none] at hfree
  simp only [exchange_of_waited_le hin, hcut] at hlimited
  exact ⟨by rw [hfree], by rw [hlimited], by rw [hlimited, hfree], by rw [hlimited, hfree]; rfl⟩

/-- A request that is late, or is never over, is cut off by a timeout. -/
theorem timeoutCuts_of_late (h : s.broken = false)
    (hlate : (s.exchange none message).outcome = .never ∨ ms < (s.exchange none message).waited) :
    s.TimeoutCuts ms message := by
  have hlimited := request_withTimeout_of_usable h (some ms) message
  simp only [exchange_beyond hlate] at hlimited
  exact ⟨by rw [hlimited]; rfl, by rw [hlimited]; rfl⟩

/-- **A timeout only cuts a request off.**

* The time that the exchange takes without a timeout is that of the pauses it goes through, those of
  the writer and those of the reader.
* If it is over in time, the timeout changes nothing.
* If it is over late, or never, the request fails with the timeout and leaves the transport broken.
* So it is for a server that never stops sending, with what arrives given by a script in which time
  goes on. What the exchange comes to without a timeout can be told from some number of arrivals: it
  is over although nothing else arrives, or it never is. There is a number of arrivals that decides
  for all that may come after it.
* A caller that has taken the lock for its request, after whatever other callers have done, has
  inevitably returned when its time is up. It returns what the request comes to on the transport as
  it finds it. -/
theorem request_withTimeout (h : s.broken = false) (ms : Nat) (message : String) :
    let x := s.exchange none message
    (x.waited + x.writer.pause + x.reader.pause = s.writer.pause + s.reader.pause) ∧
    (x.outcome ≠ .never → x.waited ≤ ms → s.TimeoutKeeps ms message x.outcome) ∧
    (x.outcome = .never ∨ ms < x.waited → s.TimeoutCuts ms message) ∧
    (∀ script, TimeGoesOn script → ∃ n, ∀ later,
      let known := (s.upTo script n).before later
      let after := fun k ↦ (s.upTo script k).exchangeInSilence message
      (∀ k, (after k).outcome ≠ .never → (after k).waited ≤ ms →
        known.TimeoutKeeps ms message (after k).outcome) ∧
      ((∀ k, (after k).outcome = .never) ∨ (∃ k, ms < (after k).waited) →
        known.TimeoutCuts ms message)) ∧
    ∀ (ι : Type) [DecidableEq ι] (ops : ι → Operation) (i : ι) (moves : List (Move ι))
      (t t' : Shared ι), ops i = .request message →
        (Shared.start (s.withTimeout (some ms))).play ops moves = some t → t.take i = some t' →
          t'.Inevitably ops fun u ↦ u.clock ≤ t.clock + ms ∧
            (u.caller i).returned? = some ((t.transport.request message).outcome.map some) := by
  refine ⟨exchange_pause none s message, fun hover hin ↦ timeoutKeeps_of_waited_le h rfl hover hin,
    timeoutCuts_of_late h, fun script hscript ↦ ?_, ?_⟩
  · obtain ⟨n, hn⟩ := exists_decided hscript s ms message
    refine ⟨n, fun later ↦ ⟨fun k hover hin ↦ ?_, fun hlate ↦ ?_⟩⟩
    · obtain ⟨houtcome, hwaited⟩ := (hn later).1 k hover hin
      exact timeoutKeeps_of_waited_le h houtcome hover hwaited
    · exact timeoutCuts_of_late h ((hn later).2 hlate)
  · intro ι _ ops i moves t t' hop hplay htake
    have hlimit : (ops i).limit (s.withTimeout (some ms)).timeout = some ms := by
      rw [hop]
      rfl
    have hreturns := Shared.inevitably_of_take hplay htake hlimit
    rwa [hop] at hreturns

/-- A server whose answer is there after nine milliseconds, five of them in the writing: a timeout
of nine keeps it, and one of eight cuts the request off. If the server never stops sending headers
instead, one of twenty cuts the request off. -/
theorem request_withTimeout_answered :
    let s : Stream := ⟨.contentLength, none,
      ⟨[], [.delay 4, .data (Utf8.bytes "Content-Length: 2\r\n")]⟩, { delays := [3, 2] }, false⟩
    let answered := s.before [.data (Utf8.bytes "\r\n\x7b\x7d")]
    let headers : Nat → Arrival := fun n ↦
      if n % 2 = 0 then .delay 1 else .data (Utf8.bytes "A: b\r\n")
    s.broken = false ∧ answered.TimeoutKeeps 9 "" (.done "\x7b\x7d") ∧
      answered.TimeoutCuts 8 "" ∧
      (∃ n, ∀ later, ((s.upTo headers n).before later).TimeoutCuts 20 "") ∧
      ∃ t, (Shared.start (answered.withTimeout (some 8))).take () = some t ∧
        t.Inevitably (fun _ ↦ .request "") fun u ↦ u.clock ≤ 8 ∧
          (u.caller ()).returned? = some (.failed (.timeout 8)) := by
  intro s answered headers
  have husable : s.broken = false := rfl
  obtain ⟨houtcome, hwaited⟩ : (answered.exchange none "").outcome = .done "\x7b\x7d" ∧
      (answered.exchange none "").waited = 9 := by
    decide +kernel
  have hheaders : TimeGoesOn headers :=
    timeGoesOn_of_pause fun n ↦ ⟨2 * n, by omega, by
      have heven : headers (2 * n) = .delay 1 := if_pos (Nat.mul_mod_right 2 n)
      rw [heven]
      exact Nat.one_pos⟩
  obtain ⟨-, hkeeps, -, -, -⟩ := request_withTimeout (s := answered) husable 9 ""
  obtain ⟨-, -, hcuts, -, hreturns⟩ := request_withTimeout (s := answered) husable 8 ""
  obtain ⟨-, -, -, hendless, -⟩ := request_withTimeout husable 20 ""
  have hkept : answered.TimeoutKeeps 9 "" (answered.exchange none "").outcome :=
    hkeeps (by rw [houtcome]; exact nofun) (Nat.le_of_eq hwaited)
  have hcut : answered.TimeoutCuts 8 "" := hcuts (.inr (by rw [hwaited]; decide))
  refine ⟨husable, houtcome ▸ hkept, hcut, ?_, _, rfl, ?_⟩
  · obtain ⟨n, hn⟩ := hendless headers hheaders
    have hlate : 20 < ((s.upTo headers 40).exchangeInSilence "").waited := by decide +kernel
    exact ⟨n, fun later ↦ (hn later).2 (.inr ⟨40, hlate⟩)⟩
  · have hreturned := hreturns Unit (fun _ ↦ .request "") () [] _ _ rfl rfl rfl
    have houtcome : ((answered.withTimeout (some 8)).request "").outcome.map some =
        .failed (.timeout 8) := by
      rw [hcut.outcome]
      rfl
    rw [← houtcome]
    exact hreturned

end LspClient.Transport.Stream
