import LspClient.Proofs.Transport.Run
import LspClient.Proofs.Transport.Shared

/-!
# Callers that share a stream transport are served one after another

When all callers have returned, it is as if their operations had been performed one after another,
in the order in which they took the lock (`play_serial`). What holds after every move (`Serial`) is
that

* those that have returned have returned what a run of their operations returns;
* nobody has the lock, and the transport is what that run leaves; or somebody has it, and what is
  still to come of its exchange is what its operation does on what that run leaves (`Agrees`).

A move by the caller that has the lock changes the second fact only (`Serial.hold`), and what it
changes are the steps of one exchange (`UnderWay`). The caller goes over from the second fact to the
first when it releases the lock (`Serial.release`).
-/

namespace LspClient.Transport.Stream

/-! ### What holds after every move -/

/-- An exchange under way is on the way to what an operation does when it is performed on `base`. -/
structure UnderWay (base : Stream) (op : Operation) (clock : Nat) (s : Stream) (start : Nat)
    (p : Progress) : Prop where
  started : start ≤ clock
  inTime : inTime (op.limit s.timeout) (clock - start) = true
  due : Transport.inTime p.due? clock = true
  usable : s.broken = false
  rest : settle (op.limit s.timeout) (p.rest op start clock s) =
    ((base.perform op).outcome, (base.perform op).transport)

/-- A caller that has the lock is on the way to what its operation does when it is performed on
`base`. -/
def Agrees (base : Stream) (op : Operation) (clock : Nat) (s : Stream) : Caller → Prop
  | .admitted => s = base
  | .working start p => UnderWay base op clock s start p
  | .settling result =>
    (.ofExcept result, s.marked result) = ((base.perform op).outcome, (base.perform op).transport)
  | .leaving result =>
    (.ofExcept result, s) = ((base.perform op).outcome, (base.perform op).transport)
  | .queued | .finished _ => False

variable {ι : Type} {s : Stream} {ops : ι → Operation} {past : List ι} {t : Shared ι}

/-- The state is one in which the callers in `past` have performed their operations one after
another, and one that has the lock is performing its own. -/
structure Serial (s : Stream) (ops : ι → Operation) (past : List ι) (t : Shared ι) : Prop where
  nodup : (past ++ t.lock.toList).Nodup
  queued : ∀ i, t.caller i = .queued ↔ i ∉ past ++ t.lock.toList
  returned : past.map (fun i ↦ (t.caller i).returned?) =
    (s.run (past.map ops)).map fun turn ↦ some turn.outcome
  free : t.lock = none → t.transport = s.after (past.map ops)
  held : ∀ i, t.lock = some i →
    Agrees (s.after (past.map ops)) (ops i) t.clock t.transport (t.caller i)

namespace Serial

theorem start (s : Stream) (ops : ι → Operation) : Serial s ops [] (.start s) where
  nodup := List.nodup_nil
  queued i := by simp [Shared.start]
  returned := rfl
  free _ := rfl
  held i h := nomatch h

/-- What a caller has returned is no wait for ever. -/
theorem returned_ne_never (c : Caller) : c.returned? ≠ some .never := by
  cases c with
  | finished result => cases result <;> exact nofun
  | _ => exact nofun

/-- No operation of a run of those that have returned waits for ever. -/
theorem run_returned (h : Serial s ops past t) :
    ∀ turn ∈ s.run (past.map ops), turn.outcome ≠ .never := by
  intro turn hturn hnever
  have hmem : some turn.outcome ∈ past.map fun i ↦ (t.caller i).returned? := by
    rw [h.returned]
    exact List.mem_map_of_mem hturn
  obtain ⟨i, -, hi⟩ := List.mem_map.1 hmem
  exact returned_ne_never (t.caller i) (hi.trans (congrArg some hnever))

/-- Those that are past have returned. -/
theorem isSome_of_mem (h : Serial s ops past t) {i : ι} (hi : i ∈ past) :
    (t.caller i).returned?.isSome = true := by
  have hmem : (t.caller i).returned? ∈ past.map fun i ↦ (t.caller i).returned? :=
    List.mem_map_of_mem hi
  rw [h.returned] at hmem
  obtain ⟨turn, -, hturn⟩ := List.mem_map.1 hmem
  rw [← hturn]
  rfl

/-- A caller that has begun and not returned has the lock. -/
theorem lock_eq (h : Serial s ops past t) {i : ι} (hbegun : t.caller i ≠ .queued)
    (hreturned : (t.caller i).returned? = none) : t.lock = some i := by
  have hmem : i ∈ past ++ t.lock.toList := by
    by_contra hmem
    exact hbegun ((h.queued i).2 hmem)
  rcases List.mem_append.1 hmem with hpast | hlock
  · have hsome := h.isSome_of_mem hpast
    rw [hreturned] at hsome
    cases hsome
  · exact Option.mem_toList.1 hlock

/-- The caller that has the lock has not returned. -/
theorem not_returned (h : Serial s ops past t) {i : ι} (hi : t.lock = some i) :
    (t.caller i).returned? = none := by
  have hagrees := h.held i hi
  cases hc : t.caller i with
  | finished result =>
    rw [hc] at hagrees
    exact hagrees.elim
  | _ => rfl

/-- The caller that has the lock is not past. -/
theorem not_mem_of_lock (h : Serial s ops past t) {i : ι} (hi : t.lock = some i) : i ∉ past := by
  have hnodup := h.nodup
  rw [hi, Option.toList_some, List.nodup_append] at hnodup
  intro hpast
  exact hnodup.2.2 i hpast i List.mem_cons_self rfl

/-- A caller that has begun and not returned is on its way. -/
theorem agrees (h : Serial s ops past t) {i : ι} {c : Caller} (hi : t.caller i = c)
    (hbegun : c ≠ .queued) (hreturned : c.returned? = none) :
    t.lock = some i ∧ Agrees (s.after (past.map ops)) (ops i) t.clock t.transport c := by
  subst hi
  have hlock := h.lock_eq hbegun hreturned
  exact ⟨hlock, h.held i hlock⟩

/-- Time passes, and makes no difference to what is still to come. -/
theorem wait (h : Serial s ops past t) {clock : Nat} (hheld : ∀ i, t.lock = some i →
      Agrees (s.after (past.map ops)) (ops i) clock t.transport (t.caller i)) :
    Serial s ops past { t with clock } where
  nodup := h.nodup
  queued := h.queued
  returned := h.returned
  free := h.free
  held := hheld

variable [DecidableEq ι]

/-- Where a caller is that is not past makes no difference to those that are. -/
theorem map_returned_put {i : ι} (hi : i ∉ past) (t : Shared ι) (c : Caller) (s : Stream) :
    (past.map fun j ↦ ((t.put i c s).caller j).returned?) =
      past.map fun j ↦ (t.caller j).returned? := by
  refine List.map_congr_left fun j hj ↦ ?_
  have hne : j ≠ i := by
    rintro rfl
    exact hi hj
  rw [Shared.put_caller_of_ne hne]

/-- A move by the caller that has the lock, while it keeps it. -/
theorem hold (h : Serial s ops past t) {i : ι} (hi : t.lock = some i) {c : Caller} {s' : Stream}
    (hc : Agrees (s.after (past.map ops)) (ops i) t.clock s' c) :
    Serial s ops past (t.put i c s') where
  nodup := h.nodup
  queued j := by
    by_cases hj : j = i
    · subst hj
      have hbegun : c ≠ .queued := by
        rintro rfl
        exact hc
      have hmem : j ∈ past ++ t.lock.toList := by simp [hi]
      exact ⟨fun hq ↦ absurd ((Shared.put_caller_self t j c s').symm.trans hq) hbegun,
        fun hn ↦ absurd hmem hn⟩
    · exact (Shared.put_caller_of_ne hj t c s').symm ▸ h.queued j
  returned := (map_returned_put (h.not_mem_of_lock hi) t c s').trans h.returned
  free hnone := by
    have hlock : t.lock = none := hnone
    rw [hi] at hlock
    cases hlock
  held j hj := by
    obtain rfl : i = j := Option.some.inj (hi.symm.trans hj)
    exact (Shared.put_caller_self t i c s').symm ▸ hc

/-- A caller takes the lock. -/
theorem acquire (h : Serial s ops past t) {i : ι} (hlock : t.lock = none)
    (hi : t.caller i = .queued) :
    Serial s ops past { t.put i .admitted t.transport with lock := some i } := by
  have hpast : i ∉ past := by
    have hmem := (h.queued i).1 hi
    rwa [hlock, Option.toList_none, List.append_nil] at hmem
  exact {
    nodup := by
      have hnodup := h.nodup
      rw [hlock, Option.toList_none, List.append_nil] at hnodup
      refine List.nodup_append.2 ⟨hnodup, List.pairwise_singleton _ i, ?_⟩
      rintro j hj _ (_ | ⟨_, ⟨⟩⟩) rfl
      exact hpast hj
    queued := fun j ↦ by
      by_cases hj : j = i
      · subst hj
        simp
      · have hj' := h.queued j
        rw [hlock] at hj'
        simpa [Shared.put_caller_of_ne hj, hj] using hj'
    returned := (map_returned_put hpast t .admitted t.transport).trans h.returned
    free := nofun
    held := fun j hj ↦ by
      obtain rfl : i = j := Option.some.inj hj
      exact (Shared.put_caller_self t i .admitted t.transport).symm ▸ h.free hlock }

/-- A caller releases the lock. -/
theorem release (h : Serial s ops past t) {i : ι} {result : Except Error (Option String)}
    (hi : t.caller i = .leaving result) :
    Serial s ops (past ++ [i]) { t.put i (.finished result) t.transport with lock := none } := by
  obtain ⟨hlock, hagrees⟩ := h.agrees hi nofun rfl
  have hpast : i ∉ past := h.not_mem_of_lock hlock
  obtain ⟨houtcome, htransport⟩ := Prod.mk.inj hagrees
  -- the run has one more turn
  have hrun : (s.run ((past ++ [i]).map ops)).map (fun turn ↦ some turn.outcome) =
      (s.run (past.map ops)).map (fun turn ↦ some turn.outcome) ++ [some (.ofExcept result)] := by
    rw [List.map_append, run_append h.run_returned, List.map_append, List.map_singleton,
      run_singleton, List.map_singleton, houtcome]
  have hafter : s.after ((past ++ [i]).map ops) = t.transport := by
    rw [after, List.map_append, List.foldl_append]
    exact htransport.symm
  exact {
    nodup := by
      have hnodup := h.nodup
      rw [hlock, Option.toList_some] at hnodup
      rwa [Option.toList_none, List.append_nil]
    queued := fun j ↦ by
      by_cases hj : j = i
      · subst hj
        simp
      · have hj' := h.queued j
        rw [hlock] at hj'
        simpa [Shared.put_caller_of_ne hj, hj] using hj'
    returned := by
      have hlast : ((t.put i (.finished result) t.transport).caller i).returned? =
          some (.ofExcept result) := by
        rw [Shared.put_caller_self]
        rfl
      rw [List.map_append, hrun, ← h.returned, List.map_singleton, hlast]
      exact congrArg (· ++ _) (map_returned_put hpast t (.finished result) t.transport)
    free := fun _ ↦ hafter.symm
    held := nofun }

end Serial

/-! ### Moves -/

theorem settle_of_over (limit : Option Nat) (result : Except Error (Option String)) {s : Stream}
    (h : s.broken = false) :
    settle limit (.ofExcept result, s) = (.ofExcept result, s.marked result) := by
  cases result with
  | ok response =>
    have hs : { s with broken := false } = s := by rw [← h]
    exact congrArg (Prod.mk _) hs
  | error e => rfl

namespace UnderWay

variable {base : Stream} {op : Operation} {clock start : Nat} {s s' : Stream} {p p' : Progress}

/-- An exchange is started on a usable transport. -/
theorem of_usable (h : s.broken = false) (op : Operation) (clock : Nat) :
    UnderWay s op clock s clock (.writing (s.framing.pieces op.message)) where
  started := Nat.le_refl clock
  inTime := by
    rw [Nat.sub_self]
    cases op.limit s.timeout with
    | none => rfl
    | some ms => exact decide_eq_true (Nat.zero_le ms)
  due := rfl
  usable := h
  rest := (perform_eq_rest h op clock).symm

/-- An exchange goes on. -/
theorem more (h : UnderWay base op clock s start p) (hnext : p.next op clock s = .more p' s') :
    UnderWay base op clock s' start p' := by
  have hkeeps := next_keeps op clock s p
  have hleads := next_leadsTo h.started h.inTime h.due
  rw [hnext] at hkeeps hleads
  obtain ⟨htimeout, hbroken, hdue⟩ := hkeeps
  exact ⟨h.started, htimeout ▸ h.inTime, hdue, hbroken.trans h.usable, by
    rw [htimeout, hleads, h.rest]⟩

/-- An exchange is over. -/
theorem ended (h : UnderWay base op clock s start p) {result : Except Error (Option String)}
    (hnext : p.next op clock s = .ended result s') :
    Agrees base op clock s' (.settling result) := by
  have hkeeps := next_keeps op clock s p
  have hleads := next_leadsTo h.started h.inTime h.due
  rw [hnext] at hkeeps hleads
  obtain ⟨-, hbroken⟩ := hkeeps
  have hrest := h.rest
  rw [← hleads, settle_of_over _ _ (hbroken.trans h.usable)] at hrest
  exact hrest

/-- An exchange is cut off. -/
theorem late (h : UnderWay base op clock s start p) (hnext : p.next op clock s = .idle) {ms : Nat}
    (hlimit : op.limit s.timeout = some ms) (hlate : start + ms ≤ clock) :
    Agrees base op clock s (.settling (.error (.timeout ms))) := by
  have hrest := h.rest
  rw [rest_of_late hnext hlimit hlate, hlimit] at hrest
  exact hrest

/-- Time passes while an exchange waits. -/
theorem later (h : UnderWay base op clock s start p) (hnext : p.next op clock s = .idle)
    {later : Nat} (hle : clock ≤ later) (hdue : Transport.inTime p.due? later = true)
    (hin : Transport.inTime (op.limit s.timeout) (later - start) = true) :
    UnderWay base op later s start p :=
  ⟨Nat.le_trans h.started hle, hin, hdue, h.usable, by rw [rest_of_later hnext, h.rest]⟩

end UnderWay

namespace Serial

variable {t' : Shared ι} {i : ι}

/-- A caller whose exchange waits has the lock. -/
theorem underWay_of_waiting (h : Serial s ops past t) {start : Nat} {p : Progress}
    (hwaiting : t.waiting? ops i = some (start, p)) :
    t.lock = some i ∧ t.caller i = .working start p ∧
      p.next (ops i) t.clock t.transport = .idle ∧
      UnderWay (s.after (past.map ops)) (ops i) t.clock t.transport start p := by
  obtain ⟨hi, hnext⟩ := Shared.waiting?_eq_some.1 hwaiting
  obtain ⟨hlock, hway⟩ := h.agrees hi nofun rfl
  exact ⟨hlock, hi, hnext, hway⟩

/-- Time passes. -/
theorem pass (h : Serial s ops past t) {ms : Nat} (hmove : t.pass ops ms = some t') :
    Serial s ops past t' ∧ t'.lock = t.lock := by
  obtain ⟨rfl, hwait⟩ := Shared.of_pass hmove
  refine ⟨h.wait fun i hlock ↦ ?_, rfl⟩
  obtain ⟨start, p, hwaiting, hdue, hlimit⟩ := hwait i hlock
  obtain ⟨-, hi, hnext, hway⟩ := h.underWay_of_waiting hwaiting
  rw [hi]
  exact hway.later hnext (Nat.le_add_right t.clock ms) hdue hlimit

variable [DecidableEq ι]

theorem take (h : Serial s ops past t) (hmove : t.take i = some t') :
    Serial s ops past t' ∧ past ++ t'.lock.toList = past ++ t.lock.toList ++ [i] := by
  obtain ⟨hlock, hi, rfl⟩ := Shared.of_take hmove
  refine ⟨h.acquire hlock hi, ?_⟩
  rw [hlock, Option.toList_some, Option.toList_none, List.append_nil]

/-- A caller goes on. If it returns, it is the next of those that are past. -/
theorem go (h : Serial s ops past t) (hmove : t.go ops i = some t') :
    ∃ past', Serial s ops past' t' ∧ past' ++ t'.lock.toList = past ++ t.lock.toList := by
  cases Shared.goes_of_go hmove with
  | refuse hi hbroken =>
    obtain ⟨hlock, hbase⟩ := h.agrees hi nofun rfl
    refine ⟨past, h.hold hlock ?_, rfl⟩
    rw [Agrees, ← hbase, perform_of_broken hbroken]
    rfl
  | begin hi hbroken =>
    obtain ⟨hlock, hbase⟩ := h.agrees hi nofun rfl
    refine ⟨past, h.hold hlock ?_, rfl⟩
    rw [Agrees, ← hbase]
    exact .of_usable hbroken (ops i) t.clock
  | more hi hnext =>
    obtain ⟨hlock, hway⟩ := h.agrees hi nofun rfl
    exact ⟨past, h.hold hlock (UnderWay.more hway hnext), rfl⟩
  | finish hi hnext =>
    obtain ⟨hlock, hway⟩ := h.agrees hi nofun rfl
    exact ⟨past, h.hold hlock (UnderWay.ended hway hnext), rfl⟩
  | settle hi =>
    obtain ⟨hlock, hagrees⟩ := h.agrees hi nofun rfl
    exact ⟨past, h.hold hlock hagrees, rfl⟩
  | release hi =>
    obtain ⟨hlock, -⟩ := h.agrees hi nofun rfl
    refine ⟨past ++ [i], h.release hi, ?_⟩
    rw [hlock]
    exact List.append_nil _

/-- A caller is cut off. -/
theorem expire (h : Serial s ops past t) (hmove : t.expire ops i = some t') :
    Serial s ops past t' ∧ t'.lock = t.lock := by
  obtain ⟨start, p, ms, hwaiting, hlimit, hlate, rfl⟩ := Shared.of_expire hmove
  obtain ⟨hlock, -, hnext, hway⟩ := h.underWay_of_waiting hwaiting
  exact ⟨h.hold hlock (hway.late hnext hlimit hlate), rfl⟩

/-- What holds is preserved by every move. The callers that are past or have the lock are those that
have taken it, in order. -/
theorem step (h : Serial s ops past t) {m : Move ι} (hmove : t.step ops m = some t') :
    ∃ past', Serial s ops past' t' ∧
      past' ++ t'.lock.toList = past ++ t.lock.toList ++ m.taker?.toList := by
  cases m with
  | take i =>
    obtain ⟨h', horder⟩ := h.take hmove
    exact ⟨past, h', horder⟩
  | go i =>
    obtain ⟨past', h', horder⟩ := h.go hmove
    exact ⟨past', h', horder.trans (List.append_nil _).symm⟩
  | expire i =>
    obtain ⟨h', hlock⟩ := h.expire hmove
    exact ⟨past, h', by rw [hlock]; exact (List.append_nil _).symm⟩
  | pass ms =>
    obtain ⟨h', hlock⟩ := h.pass hmove
    exact ⟨past, h', by rw [hlock]; exact (List.append_nil _).symm⟩

/-- What holds is preserved by every sequence of moves. -/
theorem play (h : Serial s ops past t) {moves : List (Move ι)}
    (hplay : t.play ops moves = some t') :
    ∃ past', Serial s ops past' t' ∧
      past' ++ t'.lock.toList = past ++ t.lock.toList ++ moves.filterMap Move.taker? := by
  induction moves generalizing t past with
  | nil =>
    obtain rfl := Option.some.inj hplay
    exact ⟨past, h, (List.append_nil _).symm⟩
  | cons m moves ih =>
    rw [Shared.play] at hplay
    cases hstep : t.step ops m with
    | none => rw [hstep] at hplay; cases hplay
    | some next =>
      rw [hstep] at hplay
      obtain ⟨past₁, h₁, horder₁⟩ := h.step hstep
      obtain ⟨past₂, h₂, horder₂⟩ := ih h₁ hplay
      refine ⟨past₂, h₂, ?_⟩
      rw [horder₂, horder₁, List.append_assoc]
      cases htaker : m.taker? <;> simp [htaker]

end Serial

variable [DecidableEq ι]

/-- However the steps of callers that share a transport are interleaved, when all have returned it
is as if their operations had been performed one after another, in the order in which they took the
lock. Each has the outcome that its operation has in this run, and the transport is what the run
leaves: what is written, what is still to come, and whether it is broken. So each operation writes
its own frame or the start of it, one after another, and a response is made of bytes that no other
operation takes. -/
theorem play_serial (s : Stream) (ops : ι → Operation) {moves : List (Move ι)} {t : Shared ι}
    (hplay : (Shared.start s).play ops moves = some t)
    (hover : ∀ i, (t.caller i).returned?.isSome = true) :
    let order := moves.filterMap Move.taker?
    let turns := s.run (order.map ops)
    (order.Nodup ∧ ∀ i, i ∈ order) ∧
    order.map (fun i ↦ (t.caller i).returned?) = turns.map (fun turn ↦ some turn.outcome) ∧
    t.transport = s.after (order.map ops) ∧
    ∃ bytes : List (List UInt8 × List UInt8),
      t.transport.writer.written = s.writer.written ++ bytes.flatMap Prod.fst ∧
      s.reader.incoming = bytes.flatMap Prod.snd ++ t.transport.reader.incoming ∧
      List.Forall₂ (fun turn (out, taken) ↦ turn.Owns out taken) turns bytes := by
  obtain ⟨past, h, horder⟩ := (Serial.start s ops).play hplay
  -- nobody has the lock, for all have returned
  have hlock : t.lock = none := by
    cases hlock : t.lock with
    | none => rfl
    | some i =>
      have hreturned := hover i
      rw [h.not_returned hlock] at hreturned
      cases hreturned
  rw [hlock, Option.toList_none, List.append_nil] at horder
  obtain rfl : past = moves.filterMap Move.taker? := horder
  have hall : ∀ i, i ∈ moves.filterMap Move.taker? := by
    intro i
    by_contra hi
    have hqueued : t.caller i = .queued := (h.queued i).2 (by simpa [hlock] using hi)
    have hreturned := hover i
    rw [hqueued] at hreturned
    cases hreturned
  have hnodup := h.nodup
  rw [hlock, Option.toList_none, List.append_nil] at hnodup
  obtain ⟨bytes, hwritten, hincoming, howns⟩ := run_owns h.run_returned
  rw [← h.free hlock] at hwritten hincoming
  exact ⟨⟨hnodup, hall⟩, h.returned, h.free hlock, bytes, hwritten, hincoming, howns⟩

/-- A request that is cut off after five milliseconds, two of which its first byte had to wait, as
the answer would take nine, while a notification waits for the lock. The notification is then
refused. -/
theorem play_serial_cutOff :
    let s : Stream := ⟨.lines, some 5, ⟨[], [.delay 9]⟩, { delays := [2] }, false⟩
    let ops : Bool → Operation := fun first ↦ if first then .request "" else .notify ""
    let moves : List (Move Bool) := [.take true] ++ List.replicate 3 (.go true) ++ [.pass 2] ++
      List.replicate 7 (.go true) ++
      [.pass 1, .pass 2, .expire true, .go true, .go true, .take false, .go false, .go false]
    ∃ t, (Shared.start s).play ops moves = some t ∧ (∀ i, (t.caller i).returned?.isSome = true) ∧
      [some (.failed (.timeout 5)), some (.failed .closed)] =
        (s.run [.request "", .notify ""]).map (fun turn ↦ some turn.outcome) ∧
      t.transport = s.after [.request "", .notify ""] := by
  intro s ops moves
  have hplay : ((Shared.start s).play ops moves).map
      (fun t ↦ ((t.caller true).returned?, (t.caller false).returned?)) =
        some (some (.failed (.timeout 5)), some (.failed .closed)) := by
    decide +kernel
  obtain ⟨t, ht, hreturned⟩ := Option.map_eq_some_iff.1 hplay
  obtain ⟨hfirst, hsecond⟩ := Prod.mk.inj hreturned
  have hover : ∀ i, (t.caller i).returned?.isSome = true := by
    rintro (_ | _)
    · rw [hsecond]; rfl
    · rw [hfirst]; rfl
  obtain ⟨-, houtcomes, htransport, -⟩ := play_serial s ops ht hover
  refine ⟨t, ht, hover, ?_, htransport⟩
  rw [← hfirst, ← hsecond]
  exact houtcomes

end LspClient.Transport.Stream
