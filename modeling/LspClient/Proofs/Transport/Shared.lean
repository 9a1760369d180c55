import LspClient.Proofs.Transport.Progress

/-!
# Callers that share a stream transport

Any number of callers, each with one operation, share a transport and a clock. Who moves next is not
determined. A caller takes the lock if it is free, goes one step on, or is cut off when its time is
up; and time passes while the caller that has the lock waits (`Shared.step`).

Nothing but the taking of the lock looks at it. That a caller that goes on has the lock is not part
of a step: it is a result (`Serial.lock_eq`).

What each move can do is said once, by its inversion: `of_take`, `goes_of_go`, `of_expire` and
`of_pass`.
-/

namespace LspClient.Transport.Stream

/-- Where a caller is. -/
inductive Caller where
  /-- It waits for the lock. -/
  | queued
  /-- It has taken the lock. -/
  | admitted
  /-- Its exchange was started at `start` and is under way. -/
  | working (start : Nat) (p : Progress)
  /-- Its exchange is over, or has been cut off. -/
  | settling (result : Except Error (Option String))
  /-- It is about to release the lock. -/
  | leaving (result : Except Error (Option String))
  /-- It has returned. -/
  | finished (result : Except Error (Option String))

/-- The outcome of a caller that has returned. -/
def Caller.returned? : Caller → Option (Outcome Error (Option String))
  | .finished result => some (.ofExcept result)
  | _ => none

/-- Callers that share a transport. -/
structure Shared (ι : Type) where
  transport : Stream
  /-- The time, in milliseconds. -/
  clock : Nat
  /-- The caller that has the lock. -/
  lock : Option ι
  caller : ι → Caller

/-- All callers have started and none has taken the lock. -/
def Shared.start {ι : Type} (s : Stream) : Shared ι where
  transport := s
  clock := 0
  lock := none
  caller _ := .queued

/-- What happens next. -/
inductive Move (ι : Type) where
  /-- A caller takes the lock. -/
  | take (i : ι)
  /-- A caller goes one step on. -/
  | go (i : ι)
  /-- A caller's time is up. -/
  | expire (i : ι)
  /-- Time passes. -/
  | pass (ms : Nat)

/-- The caller that takes the lock in a move. -/
def Move.taker? {ι : Type} : Move ι → Option ι
  | .take i => some i
  | _ => none

/-- The transport marked as broken if an exchange has failed. -/
def marked (s : Stream) : Except Error (Option String) → Stream
  | .ok _ => s
  | .error _ => { s with broken := true }

namespace Shared

variable {ι : Type} [DecidableEq ι]

/-- The state after a step of one caller. -/
def put (t : Shared ι) (i : ι) (c : Caller) (s : Stream) : Shared ι :=
  { t with transport := s, caller := fun j ↦ if j = i then c else t.caller j }

@[simp] theorem put_caller_self (t : Shared ι) (i : ι) (c : Caller) (s : Stream) :
    (t.put i c s).caller i = c :=
  if_pos rfl

theorem put_caller_of_ne {i j : ι} (h : j ≠ i) (t : Shared ι) (c : Caller) (s : Stream) :
    (t.put i c s).caller j = t.caller j :=
  if_neg h

/-- A caller takes the lock. -/
def take (t : Shared ι) (i : ι) : Option (Shared ι) :=
  match t.lock, t.caller i with
  | none, .queued => some { t.put i .admitted t.transport with lock := some i }
  | _, _ => none

/-- A caller goes one step on. -/
def go (ops : ι → Operation) (t : Shared ι) (i : ι) : Option (Shared ι) :=
  match t.caller i with
  | .queued => none
  | .admitted =>
    if t.transport.broken then some (t.put i (.leaving (.error .closed)) t.transport)
    else
      let pieces := t.transport.framing.pieces (ops i).message
      some (t.put i (.working t.clock (.writing pieces)) t.transport)
  | .working start p =>
    match p.next (ops i) t.clock t.transport with
    | .idle => none
    | .more p s => some (t.put i (.working start p) s)
    | .ended result s => some (t.put i (.settling result) s)
  | .settling result => some (t.put i (.leaving result) (t.transport.marked result))
  | .leaving result => some { t.put i (.finished result) t.transport with lock := none }
  | .finished _ => none

omit [DecidableEq ι] in
/-- The exchange of a caller, and when it was started, if it waits. -/
def waiting? (ops : ι → Operation) (t : Shared ι) (i : ι) : Option (Nat × Progress) :=
  match t.caller i with
  | .working start p =>
    match p.next (ops i) t.clock t.transport with
    | .idle => some (start, p)
    | _ => none
  | _ => none

/-- The exchange of a caller is cut off. It has to wait, and its time has to be up. -/
def expire (ops : ι → Operation) (t : Shared ι) (i : ι) : Option (Shared ι) :=
  match t.waiting? ops i, (ops i).limit t.transport.timeout with
  | some (start, _), some ms =>
    if start + ms ≤ t.clock then some (t.put i (.settling (.error (.timeout ms))) t.transport)
    else none
  | _, _ => none

/-- Time passes. It does so only while there is nothing to do: a caller that has the lock has to
wait, and neither what it waits for nor the end of its time is missed. -/
def pass (ops : ι → Operation) (t : Shared ι) (ms : Nat) : Option (Shared ι) :=
  let later := { t with clock := t.clock + ms }
  match t.lock with
  | none => some later
  | some i =>
    match t.waiting? ops i with
    | some (start, p) =>
      if inTime p.due? later.clock &&
          inTime ((ops i).limit t.transport.timeout) (later.clock - start) then some later
      else none
    | none => none

/-- What a move makes of the state, if it is possible. -/
def step (ops : ι → Operation) (t : Shared ι) : Move ι → Option (Shared ι)
  | .take i => t.take i
  | .go i => t.go ops i
  | .expire i => t.expire ops i
  | .pass ms => t.pass ops ms

/-- What some moves make of the state, if they are possible. -/
def play (ops : ι → Operation) (t : Shared ι) : List (Move ι) → Option (Shared ι)
  | [] => some t
  | m :: moves =>
    match t.step ops m with
    | some t => t.play ops moves
    | none => none

/-! ### What a move can do -/

/-- What a caller does when it goes one step on. -/
inductive Goes (ops : ι → Operation) (t : Shared ι) (i : ι) : Shared ι → Prop
  /-- It finds the transport broken, and its operation is refused. -/
  | refuse (hi : t.caller i = .admitted) (hbroken : t.transport.broken = true) :
      Goes ops t i (t.put i (.leaving (.error .closed)) t.transport)
  /-- It starts its exchange. -/
  | begin (hi : t.caller i = .admitted) (hbroken : t.transport.broken = false) :
      Goes ops t i
        (t.put i (.working t.clock (.writing (t.transport.framing.pieces (ops i).message)))
          t.transport)
  /-- Its exchange goes on. -/
  | more {start : Nat} {p p' : Progress} {s' : Stream} (hi : t.caller i = .working start p)
      (hnext : p.next (ops i) t.clock t.transport = .more p' s') :
      Goes ops t i (t.put i (.working start p') s')
  /-- Its exchange is over. -/
  | finish {start : Nat} {p : Progress} {result : Except Error (Option String)} {s' : Stream}
      (hi : t.caller i = .working start p)
      (hnext : p.next (ops i) t.clock t.transport = .ended result s') :
      Goes ops t i (t.put i (.settling result) s')
  /-- It marks the transport if the exchange has failed. -/
  | settle {result : Except Error (Option String)} (hi : t.caller i = .settling result) :
      Goes ops t i (t.put i (.leaving result) (t.transport.marked result))
  /-- It releases the lock and returns. -/
  | release {result : Except Error (Option String)} (hi : t.caller i = .leaving result) :
      Goes ops t i { t.put i (.finished result) t.transport with lock := none }

variable {ops : ι → Operation} {t t' : Shared ι} {i : ι}

/-- A caller that takes the lock waited for it, and nobody had it. -/
theorem of_take (h : t.take i = some t') :
    t.lock = none ∧ t.caller i = .queued ∧
      t' = { t.put i .admitted t.transport with lock := some i } := by
  rw [take] at h
  split at h
  case h_1 hlock hi => exact ⟨hlock, hi, (Option.some.inj h).symm⟩
  case h_2 => cases h

theorem goes_of_go (h : t.go ops i = some t') : Goes ops t i t' := by
  rw [go] at h
  cases hi : t.caller i with
  | queued => rw [hi] at h; cases h
  | finished result => rw [hi] at h; cases h
  | leaving result =>
    rw [hi] at h
    obtain rfl := Option.some.inj h
    exact .release hi
  | settling result =>
    rw [hi] at h
    obtain rfl := Option.some.inj h
    exact .settle hi
  | admitted =>
    rw [hi] at h
    cases hbroken : t.transport.broken with
    | true =>
      simp only [hbroken, if_true] at h
      obtain rfl := Option.some.inj h
      exact .refuse hi hbroken
    | false =>
      simp only [hbroken, Bool.false_eq_true, if_false] at h
      obtain rfl := Option.some.inj h
      exact .begin hi hbroken
  | working start p =>
    rw [hi] at h
    cases hnext : p.next (ops i) t.clock t.transport with
    | idle => simp only [hnext] at h; cases h
    | more p' s' =>
      simp only [hnext] at h
      obtain rfl := Option.some.inj h
      exact .more hi hnext
    | ended result s' =>
      simp only [hnext] at h
      obtain rfl := Option.some.inj h
      exact .finish hi hnext

omit [DecidableEq ι] in
/-- A caller waits if there is no next step of its exchange. -/
theorem waiting?_eq_some {start : Nat} {p : Progress} :
    t.waiting? ops i = some (start, p) ↔
      t.caller i = .working start p ∧ p.next (ops i) t.clock t.transport = .idle := by
  constructor
  · intro h
    rw [waiting?] at h
    split at h
    case h_1 hi =>
      split at h
      case h_1 hnext =>
        obtain ⟨rfl, rfl⟩ := Prod.mk.inj (Option.some.inj h)
        exact ⟨hi, hnext⟩
      case h_2 => cases h
    case h_2 => cases h
  · rintro ⟨hi, hnext⟩
    simp only [waiting?, hi, hnext]

/-- A caller that is cut off waits when its time is up. -/
theorem of_expire (h : t.expire ops i = some t') :
    ∃ start p ms, t.waiting? ops i = some (start, p) ∧
      (ops i).limit t.transport.timeout = some ms ∧ start + ms ≤ t.clock ∧
      t' = t.put i (.settling (.error (.timeout ms))) t.transport := by
  rw [expire] at h
  split at h
  case h_1 start p ms hwaiting hlimit =>
    split at h
    case isTrue hlate => exact ⟨start, p, ms, hwaiting, hlimit, hlate, (Option.some.inj h).symm⟩
    case isFalse => cases h
  case h_2 => cases h

omit [DecidableEq ι] in
/-- While time passes a caller that has the lock waits, and nothing is missed. -/
theorem of_pass {ms : Nat} (h : t.pass ops ms = some t') :
    t' = { t with clock := t.clock + ms } ∧ ∀ i, t.lock = some i →
      ∃ start p, t.waiting? ops i = some (start, p) ∧
        inTime p.due? (t.clock + ms) = true ∧
        inTime ((ops i).limit t.transport.timeout) (t.clock + ms - start) = true := by
  simp only [pass] at h
  split at h
  case h_1 hlock =>
    refine ⟨(Option.some.inj h).symm, fun i hi ↦ ?_⟩
    rw [hlock] at hi
    cases hi
  case h_2 j hlock =>
    split at h
    case h_1 start p hwaiting =>
      split at h
      case isTrue hin =>
        obtain ⟨hdue, hlimit⟩ := Bool.and_eq_true_iff.1 hin
        refine ⟨(Option.some.inj h).symm, fun i hi ↦ ?_⟩
        obtain rfl : j = i := Option.some.inj (hlock.symm.trans hi)
        exact ⟨start, p, hwaiting, hdue, hlimit⟩
      case isFalse => cases h
    case h_2 => cases h

end Shared

end LspClient.Transport.Stream
