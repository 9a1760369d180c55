import LspClient.Proofs.Transport.Serial

/-!
# A request under a timeout returns

Once a caller whose request has a timeout has taken the lock, it returns, whatever happens, and not
later than the timeout allows (`Shared.inevitably_of_take`). This is not that it can return, or that
it returns in a run that goes well: no sequence of moves goes on without its return, and none comes
to a stop before it (`Shared.Inevitably`).

A caller that has the lock and does not wait can go on, and one that waits can be cut off or else
let time pass (`Serial.exists_step`). Each of its steps leaves less to be done
(`next_lowers`), and when time passes there is less of it left (`Serial.step_lowers`).
-/

namespace LspClient.Transport

/-! ### How much is left -/

/-- How many steps an arrival may take. -/
def Arrival.size : Arrival → Nat
  | .data bytes => bytes.length + 1
  | .delay _ => 2
  | .fail _ | .silence => 1

/-- How many steps it may take to take all that a reader brings. -/
def Reader.size (r : Reader) : Nat :=
  r.unread.length + (r.arrivals.map Arrival.size).sum

theorem Reader.size_cons (b : UInt8) (unread : List UInt8) (arrivals : List Arrival) :
    Reader.size ⟨b :: unread, arrivals⟩ = Reader.size ⟨unread, arrivals⟩ + 1 :=
  Nat.add_right_comm unread.length 1 _

theorem Reader.size_data (bytes : List UInt8) (arrivals : List Arrival) :
    Reader.size ⟨[], .data bytes :: arrivals⟩ = Reader.size ⟨bytes, arrivals⟩ + 1 := by
  simp only [Reader.size, List.map_cons, List.sum_cons, Arrival.size, List.length_nil]
  omega

theorem Reader.size_delay (ms : Nat) (arrivals : List Arrival) :
    Reader.size ⟨[], .delay ms :: arrivals⟩ = Reader.size ⟨[], arrivals⟩ + 2 := by
  simp only [Reader.size, List.map_cons, List.sum_cons, Arrival.size, List.length_nil]
  omega

theorem Reader.size_fail (fault : IoError) (arrivals : List Arrival) :
    Reader.size ⟨[], .fail fault :: arrivals⟩ = Reader.size ⟨[], arrivals⟩ + 1 := by
  simp only [Reader.size, List.map_cons, List.sum_cons, Arrival.size, List.length_nil]
  omega

namespace Stream

/-- How many steps it may take to write pieces. -/
def writingSize (pieces : List (List UInt8)) : Nat :=
  (pieces.map fun piece ↦ 3 * piece.length + 3).sum

/-- A bound on the steps that are left of an exchange. -/
def Progress.left (s : Stream) : Progress → Nat
  | .writing pieces => writingSize pieces + 3 + (3 * greatestSkip + s.reader.size)
  | .held pieces _ => writingSize pieces + 2 + (3 * greatestSkip + s.reader.size)
  | .putting pieces => writingSize pieces + 1 + (3 * greatestSkip + s.reader.size)
  | .awaiting attempts => 3 * attempts + s.reader.size
  | .reading attempts _ => 3 * attempts + 2 + s.reader.size
  | .waiting attempts _ _ => 3 * attempts + 3 + s.reader.size
  | .judging attempts _ => 3 * attempts + 1 + s.reader.size

/-- A step leaves fewer than so many steps. -/
def Step.Lowers (n : Nat) : Step → Prop
  | .more p s => p.left s < n
  | .idle | .ended _ _ => True

variable {op : Operation} {start clock : Nat} {s s' : Stream} {p p' : Progress}

/-- Each step of an exchange leaves less to be done. -/
theorem next_lowers (op : Operation) (clock : Nat) (s : Stream) (p : Progress) :
    (p.next op clock s).Lowers (p.left s) := by
  fun_cases Progress.next op clock s p with
  | case5 | case7 | case8 | case11 | case12 | case13 | case22 | case24 | case26 | case27 => trivial
  | case6 =>
    cases op with
    | request message => simp only [Operation.afterWriting, Step.Lowers, Progress.left]; omega
    | notify message => trivial
  | case1 | case2 | case3 | case4 | case9 | case10 | case14 | case23 | case25 =>
    simp only [Step.Lowers, Progress.left, writingSize, List.map_cons, List.sum_cons,
      List.length_cons, List.length_nil]
    omega
  | case15 attempts scan b unread arrivals hreader =>
    rw [Progress.left, hreader, Reader.size_cons]
    change 3 * attempts + 2 + Reader.size ⟨unread, arrivals⟩ < _
    omega
  | case16 attempts scan b unread arrivals hreader =>
    rw [Progress.left, hreader, Reader.size_cons]
    change 3 * attempts + 1 + Reader.size ⟨unread, arrivals⟩ < _
    omega
  | case17 attempts scan hreader =>
    rw [Step.Lowers, Progress.left, Progress.left]
    omega
  | case18 attempts scan bytes arrivals hreader =>
    rw [Progress.left, hreader, Reader.size_data]
    change 3 * attempts + 2 + Reader.size ⟨bytes, arrivals⟩ < _
    omega
  | case19 attempts scan ms arrivals hreader =>
    rw [Progress.left, hreader, Reader.size_delay]
    change 3 * attempts + 3 + Reader.size ⟨[], arrivals⟩ < _
    omega
  | case20 attempts scan fault arrivals hreader =>
    rw [Progress.left, hreader, Reader.size_fail]
    change 3 * attempts + 1 + Reader.size ⟨[], arrivals⟩ < _
    omega
  | case21 attempts scan fault arrivals hreader =>
    rw [Progress.left, hreader, Reader.size_fail]
    change 3 * attempts + 2 + Reader.size ⟨[], arrivals⟩ < _
    omega

/-- A bound on the steps that are left of a caller that has the lock. -/
def Caller.left (op : Operation) (s : Stream) : Caller → Nat
  | .queued => 0
  | .admitted => (Progress.writing (s.framing.pieces op.message)).left s + 4
  | .working _ p => p.left s + 3
  | .settling _ => 2
  | .leaving _ => 1
  | .finished _ => 0

/-- A caller that has the lock will have returned by `deadline` if its exchange may take `ms`. -/
def Caller.By (deadline ms clock : Nat) : Caller → Prop
  | .admitted => clock + ms ≤ deadline
  | .working start _ => start + ms ≤ deadline
  | _ => clock ≤ deadline

variable {ι : Type} [DecidableEq ι] {ops : ι → Operation} {past : List ι} {t t' : Shared ι} {i : ι}

namespace Shared

/-- Whatever happens, there comes a state with a certain property: this is one, or something can
happen and whatever does leads there. A wait of no time is nothing that happens. -/
inductive Inevitably (ops : ι → Operation) (P : Shared ι → Prop) : Shared ι → Prop
  | now {t : Shared ι} (h : P t) : Inevitably ops P t
  | next {t : Shared ι} (hcan : ∃ m, m ≠ .pass 0 ∧ (t.step ops m).isSome = true)
      (hall : ∀ m t', m ≠ .pass 0 → t.step ops m = some t' → Inevitably ops P t') :
      Inevitably ops P t

/-- A caller that goes on has taken the lock and not returned. -/
theorem Goes.begun (h : Goes ops t i t') :
    t.caller i ≠ .queued ∧ (t.caller i).returned? = none := by
  cases h with
  | refuse hi | begin hi | more hi | finish hi | settle hi | release hi =>
    rw [hi]
    exact ⟨nofun, rfl⟩

/-- No step of a caller changes the timeout. -/
theorem Goes.timeout (h : Goes ops t i t') : t'.transport.timeout = t.transport.timeout := by
  cases h with
  | refuse | begin | release => rfl
  | @more start p p' s' hi hnext =>
    have hkeeps := next_keeps (ops i) t.clock t.transport p
    rw [hnext] at hkeeps
    exact hkeeps.1
  | @finish start p result s' hi hnext =>
    have hkeeps := next_keeps (ops i) t.clock t.transport p
    rw [hnext] at hkeeps
    exact hkeeps.1
  | @settle result hi => cases result <;> rfl

/-- No move changes the timeout. -/
theorem step_timeout {m : Move ι} (h : t.step ops m = some t') :
    t'.transport.timeout = t.transport.timeout := by
  cases m with
  | take i => obtain ⟨-, -, rfl⟩ := of_take h; rfl
  | go i => exact (goes_of_go h).timeout
  | expire i => obtain ⟨-, -, -, -, -, -, rfl⟩ := of_expire h; rfl
  | pass ms => obtain ⟨rfl, -⟩ := of_pass h; rfl

theorem play_timeout {moves : List (Move ι)} (h : t.play ops moves = some t') :
    t'.transport.timeout = t.transport.timeout := by
  induction moves generalizing t with
  | nil => obtain rfl := Option.some.inj h; rfl
  | cons m moves ih =>
    rw [play] at h
    cases hstep : t.step ops m with
    | none => rw [hstep] at h; cases h
    | some next =>
      rw [hstep] at h
      exact (ih h).trans (step_timeout hstep)

end Shared

namespace Serial

variable {ms deadline : Nat}

/-- While a caller under a timeout has the lock, something can happen. -/
theorem exists_step (h : Serial s ops past t) (hlock : t.lock = some i)
    (hlimit : (ops i).limit t.transport.timeout = some ms) :
    ∃ m, m ≠ .pass 0 ∧ (t.step ops m).isSome = true := by
  have hgo : (t.go ops i).isSome = true →
      ∃ m, m ≠ .pass 0 ∧ (t.step ops m).isSome = true :=
    fun hsome ↦ ⟨.go i, by simp, hsome⟩
  have hagrees := h.held i hlock
  cases hi : t.caller i with
  | queued => rw [hi] at hagrees; exact hagrees.elim
  | finished result => rw [hi] at hagrees; exact hagrees.elim
  | admitted =>
    refine hgo ?_
    cases hbroken : t.transport.broken with
    | true => simp only [Shared.go, hi, hbroken, if_true, Option.isSome_some]
    | false => simp only [Shared.go, hi, hbroken, Bool.false_eq_true, if_false, Option.isSome_some]
  | settling result => exact hgo (by simp only [Shared.go, hi, Option.isSome_some])
  | leaving result => exact hgo (by simp only [Shared.go, hi, Option.isSome_some])
  | working start p =>
    cases hnext : p.next (ops i) t.clock t.transport with
    | more p' s' => exact hgo (by simp only [Shared.go, hi, hnext, Option.isSome_some])
    | ended result s' => exact hgo (by simp only [Shared.go, hi, hnext, Option.isSome_some])
    | idle =>
      have hwaiting : t.waiting? ops i = some (start, p) := Shared.waiting?_eq_some.2 ⟨hi, hnext⟩
      by_cases hlate : start + ms ≤ t.clock
      · -- its time is up
        exact ⟨.expire i, by simp, by
          simp only [Shared.step, Shared.expire, hwaiting, hlimit, hlate, if_true,
            Option.isSome_some]⟩
      · -- a millisecond can pass, for neither the wait nor the time is over
        have hdue : inTime p.due? (t.clock + 1) = true := by
          rcases rest_of_idle hnext with ⟨hnone, -⟩ | ⟨due, hdue, hlt⟩
          · rw [hnone]; rfl
          · rw [hdue]; exact decide_eq_true hlt
        have hin : inTime (some ms) (t.clock + 1 - start) = true := decide_eq_true (by omega)
        exact ⟨.pass 1, by simp, by
          simp only [Shared.step, Shared.pass, hlock, hwaiting, hlimit, hdue, hin, Bool.and_self,
            if_true, Option.isSome_some]⟩

/-- An exchange that is under way has not taken longer than it may. -/
theorem clock_le_of_underWay {base s : Stream} {op : Operation} {clock start : Nat} {p : Progress}
    (hway : UnderWay base op clock s start p) (hlimit : op.limit s.timeout = some ms)
    (hstart : start + ms ≤ deadline) : clock ≤ deadline := by
  have hin := hway.inTime
  rw [hlimit] at hin
  have hle : clock - start ≤ ms := of_decide_eq_true hin
  omega

/-- A caller that has less left, and will have returned as early as before. -/
def HasLess (op : Operation) (deadline ms : Nat) (i : ι) (t t' : Shared ι) : Prop :=
  t'.lock = some i ∧ (t'.caller i).By deadline ms t'.clock ∧
    (t'.caller i).left op t'.transport + (deadline - t'.clock) <
      (t.caller i).left op t.transport + (deadline - t.clock)

/-- A step of the caller that has the lock leaves less to be done, or the caller returns. -/
theorem go_lowers (h : Serial s ops past t) (hlock : t.lock = some i)
    (hlimit : (ops i).limit t.transport.timeout = some ms)
    (hby : (t.caller i).By deadline ms t.clock) (hgo : Shared.Goes ops t i t') :
    (t'.lock = none ∧ t'.clock ≤ deadline) ∨ HasLess (ops i) deadline ms i t t' := by
  -- what a step of the caller is that keeps the lock
  have hput : ∀ {c : Caller} {s' : Stream}, c.By deadline ms t.clock →
      c.left (ops i) s' < (t.caller i).left (ops i) t.transport →
        HasLess (ops i) deadline ms i t (t.put i c s') := by
    intro c s' hc hless
    refine ⟨hlock, ?_, ?_⟩
    · rw [Shared.put_caller_self]
      exact hc
    · rw [Shared.put_caller_self]
      exact Nat.add_lt_add_right hless _
  cases hgo with
  | refuse hi hbroken =>
    rw [hi] at hby hput
    have hclock : t.clock + ms ≤ deadline := hby
    refine .inr (hput (Nat.le_of_add_right_le hclock) ?_)
    simp only [Caller.left]
    omega
  | begin hi hbroken =>
    rw [hi] at hby hput
    exact .inr (hput hby (Nat.lt_succ_self _))
  | @more start p p' s' hi hnext =>
    have hlowers := next_lowers (ops i) t.clock t.transport p
    rw [hnext] at hlowers
    rw [hi] at hby hput
    exact .inr (hput hby (Nat.add_lt_add_right hlowers 3))
  | @finish start p result s' hi hnext =>
    obtain ⟨-, hway⟩ := h.agrees hi nofun rfl
    rw [hi] at hby hput
    refine .inr (hput (clock_le_of_underWay hway hlimit hby) ?_)
    simp only [Caller.left]
    omega
  | @settle result hi =>
    rw [hi] at hby hput
    exact .inr (hput hby (Nat.lt_succ_self 1))
  | release hi =>
    rw [hi] at hby
    exact .inl ⟨rfl, hby⟩

/-- Whatever happens while a caller under a timeout has the lock, the caller returns or has less
left to do or to wait for. -/
theorem step_lowers (h : Serial s ops past t) (hlock : t.lock = some i)
    (hlimit : (ops i).limit t.transport.timeout = some ms)
    (hby : (t.caller i).By deadline ms t.clock) {m : Move ι} (hm : m ≠ .pass 0)
    (hmove : t.step ops m = some t') :
    (t'.lock = none ∧ t'.clock ≤ deadline) ∨ HasLess (ops i) deadline ms i t t' := by
  cases m with
  | take j =>
    obtain ⟨hfree, -⟩ := Shared.of_take hmove
    rw [hlock] at hfree
    cases hfree
  | go j =>
    have hgo := Shared.goes_of_go hmove
    have hlock' : t.lock = some j := h.lock_eq hgo.begun.1 hgo.begun.2
    obtain rfl : i = j := Option.some.inj (hlock.symm.trans hlock')
    exact h.go_lowers hlock hlimit hby hgo
  | expire j =>
    obtain ⟨start, p, ms', hwaiting, -, -, rfl⟩ := Shared.of_expire hmove
    obtain ⟨hlock', hj, -, hway⟩ := h.underWay_of_waiting hwaiting
    obtain rfl : i = j := Option.some.inj (hlock.symm.trans hlock')
    rw [hj] at hby
    refine .inr ⟨hlock, ?_, ?_⟩
    · rw [Shared.put_caller_self]
      exact clock_le_of_underWay hway hlimit hby
    · rw [Shared.put_caller_self, hj]
      refine Nat.add_lt_add_right ?_ _
      simp only [Caller.left]
      omega
  | pass k =>
    obtain ⟨rfl, hwait⟩ := Shared.of_pass hmove
    obtain ⟨start, p, hwaiting, -, hin⟩ := hwait i hlock
    obtain ⟨-, hi, -, hway⟩ := h.underWay_of_waiting hwaiting
    rw [hlimit] at hin
    have hle : t.clock + k - start ≤ ms := of_decide_eq_true hin
    have hstarted := hway.started
    have hk : k ≠ 0 := fun hk ↦ hm (congrArg Move.pass hk)
    rw [hi] at hby
    have hstart : start + ms ≤ deadline := hby
    refine .inr ⟨hlock, ?_, ?_⟩
    · change (t.caller i).By deadline ms (t.clock + k)
      rw [hi]
      exact hstart
    · refine Nat.add_lt_add_left ?_ _
      change deadline - (t.clock + k) < deadline - t.clock
      omega

omit [DecidableEq ι] in
/-- What the caller has returned that was the last to release the lock is what its operation comes
to on what those before it have left. -/
theorem returned_last (h : Serial s ops (past ++ [i]) t)
    (hpast : ∀ turn ∈ s.run (past.map ops), turn.outcome ≠ .never) :
    (t.caller i).returned? = some ((s.after (past.map ops)).perform (ops i)).outcome := by
  have hreturned := h.returned
  rw [List.map_append, List.map_append, run_append hpast, List.map_append, List.map_singleton,
    List.map_singleton, run_singleton, List.map_singleton] at hreturned
  exact (List.cons.inj (List.append_inj' hreturned rfl).2).1

/-- Nobody takes a lock that somebody has. -/
theorem taker?_eq_none (hlock : t.lock = some i) {m : Move ι} (hmove : t.step ops m = some t') :
    m.taker? = none := by
  cases m with
  | take j =>
    obtain ⟨hfree, -⟩ := Shared.of_take hmove
    rw [hlock] at hfree
    cases hfree
  | go | expire | pass => rfl

/-- Once a caller under a timeout has the lock, it returns, whatever happens, and in time. What it
returns is what its operation comes to on what those before it have left. -/
theorem inevitably (h : Serial s ops past t) (hlock : t.lock = some i)
    (hlimit : (ops i).limit t.transport.timeout = some ms)
    (hby : (t.caller i).By deadline ms t.clock) :
    t.Inevitably ops fun u ↦ u.clock ≤ deadline ∧
      (u.caller i).returned? = some ((s.after (past.map ops)).perform (ops i)).outcome := by
  -- by induction on what is left to do and to wait for
  induction hn : (t.caller i).left (ops i) t.transport + (deadline - t.clock)
    using Nat.strongRecOn generalizing t with
  | ind n ih =>
    refine .next (h.exists_step hlock hlimit) fun m t' hm hmove ↦ ?_
    obtain ⟨past', h', horder⟩ := h.step hmove
    rw [taker?_eq_none hlock hmove, Option.toList_none, List.append_nil, hlock] at horder
    rcases h.step_lowers hlock hlimit hby hm hmove with ⟨hfree, hclock⟩ | ⟨hlock', hby', hless⟩
    · -- it has released the lock, and so it has returned
      rw [hfree, Option.toList_none, List.append_nil] at horder
      subst horder
      exact .now ⟨hclock, h'.returned_last h.run_returned⟩
    · rw [hlock'] at horder
      obtain rfl : past' = past := List.append_cancel_right horder
      have hlimit' : (ops i).limit t'.transport.timeout = some ms := by
        rwa [Shared.step_timeout hmove]
      exact ih _ (hn ▸ hless) h' hlock' hlimit' hby' rfl

end Serial

/-- **A caller whose operation has a timeout returns once it has taken the lock**, whatever happens
and not later than the timeout allows, with what its operation comes to on the transport as it finds
it. -/
theorem Shared.inevitably_of_take {ms : Nat} {moves : List (Move ι)}
    (hplay : (Shared.start s).play ops moves = some t) (htake : t.take i = some t')
    (hlimit : (ops i).limit s.timeout = some ms) :
    t'.Inevitably ops fun u ↦ u.clock ≤ t.clock + ms ∧
      (u.caller i).returned? = some (t.transport.perform (ops i)).outcome := by
  obtain ⟨past, h, -⟩ := (Serial.start s ops).play hplay
  obtain ⟨hlock, hi, rfl⟩ := Shared.of_take htake
  have hlimit' : (ops i).limit t.transport.timeout = some ms := by
    rwa [Shared.play_timeout hplay]
  have hby : ((t.put i .admitted t.transport).caller i).By (t.clock + ms) ms t.clock := by
    rw [Shared.put_caller_self]
    exact Nat.le_refl _
  have hreturns := (h.acquire hlock hi).inevitably rfl hlimit' hby
  rwa [← h.free hlock] at hreturns

end Stream

end LspClient.Transport
