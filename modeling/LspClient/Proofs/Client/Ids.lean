import LspClient.Proofs.Client.Invocation
import Mathlib.Data.List.Basic

/-!
# The ids of calls that share a client

Any number of tasks share a client, each with one action. A task starts its action, which is when a
call draws its id, and later hands to the transport the operation that the action asks; in between
other tasks may start theirs or hand theirs over, the client may be given other styles, and the
transport may go on in any way (`Tasks.step`). Actions that are performed one after another are a
case of this (`exists_play_turns`), so what is shown of tasks (`play_ids`) comes to the same for
calls, handshakes and notifications that follow one another (`turns_ids`).

The ids are accounted for by what a client has drawn since the first task (`HasDrawn`): the number
of calls that were started while ids were numbers tells its next number, and the number of those
that were started while ids were UUIDs tells how many of them are gone. That holds of the client
after every move, and it held of the client of each task for the tasks before it (`Accounted`).
Nothing else that happens to a client bears on the ids (`HasDrawn.elsewhere`).
-/

namespace LspClient

open Transport

namespace Client

variable {σ : Type}

/-! ### Tasks -/

/-- An action that was started, with the client before it. -/
structure Task (σ : Type) : Type 1 where
  before : Client σ
  action : Action

namespace Task

/-- Whether a task is a call. -/
def isCall (b : Task σ) : Bool :=
  b.action.isCall

/-- Whether a task is a call that draws a number. -/
def isSequential (b : Task σ) : Bool :=
  b.isCall && b.before.idStyle = .sequential

/-- Whether a task is a call that draws a UUID. -/
def isRandom (b : Task σ) : Bool :=
  b.isCall && b.before.idStyle = .uuid

/-- The operation that a task asks of the transport, if its action is accepted. -/
def asks? (b : Task σ) : Option Stream.Operation :=
  b.before.asks? b.action

/-- The request that a task asks of the transport, if its action is a call and accepted. -/
def request? (b : Task σ) : Option RequestEnvelope :=
  if b.isCall then
    match prepare b.before.paramsStyle b.action.method b.action.params with
    | .ok params => some ⟨b.before.drawId.1, b.action.method, params⟩
    | .error _ => none
  else none

end Task

/-- Tasks that share a client. -/
structure Tasks (σ : Type) : Type 1 where
  client : Client σ
  /-- The tasks, in the order in which they were started. -/
  begun : List (Task σ)
  /-- The places of the tasks that have handed their operation to the transport, in the order in
  which they did. -/
  handed : List Nat
  /-- The operations that were handed to the transport, in the same order. -/
  asked : List Stream.Operation

/-- What happens next. -/
inductive Move (σ : Type) : Type 1 where
  /-- A task starts an action. -/
  | start (a : Action)
  /-- The task at a place hands its operation to the transport. -/
  | hand (i : Nat)
  /-- The client is given other styles. -/
  | restyle (idStyle : IdStyle) (paramsStyle : ParamsStyle)
  /-- Something else happens to the transport. -/
  | elsewhere (transport : σ)

/-- The message of an operation, if it is a request. -/
def requestText? : Stream.Operation → Option String
  | .request message => some message
  | .notify _ => none

namespace Tasks

/-- No task has been started. -/
def start (c : Client σ) : Tasks σ where
  client := c
  begun := []
  handed := []
  asked := []

/-- The requests that were handed to the transport, in order. -/
def requests (t : Tasks σ) : List RequestEnvelope :=
  t.handed.filterMap fun i ↦ t.begun[i]?.bind Task.request?

variable [Transport σ]

/-- What a move makes of the tasks, if it is possible. -/
def step (t : Tasks σ) : Move σ → Option (Tasks σ)
  | .start a =>
    some { t with client := t.client.started a, begun := t.begun ++ [⟨t.client, a⟩] }
  | .hand i =>
    match t.begun[i]?.bind Task.asks? with
    | some op =>
      if i ∈ t.handed then none
      else
        let client := { t.client with transport := deliver t.client.transport op }
        some { t with client, handed := t.handed ++ [i], asked := t.asked ++ [op] }
    | none => none
  | .restyle idStyle paramsStyle =>
    some { t with client := { t.client with idStyle, paramsStyle } }
  | .elsewhere transport =>
    some { t with client := { t.client with transport } }

/-- What some moves make of the tasks, if they are possible. -/
def play (t : Tasks σ) : List (Move σ) → Option (Tasks σ)
  | [] => some t
  | m :: moves =>
    match t.step m with
    | some t => t.play moves
    | none => none

end Tasks

/-! ### What is drawn -/

/-- The client `c'` is one that has drawn since `c` what some tasks draw. -/
structure HasDrawn (c c' : Client σ) (tasks : List (Task σ)) : Prop where
  nextId : c'.nextId = c.nextId + UInt64.ofNat (tasks.countP Task.isSequential)
  drawn : c'.drawn = c.drawn + tasks.countP Task.isRandom
  uuids : c'.uuids = c.uuids

/-- The client has drawn what the tasks draw, and no task has handed over its operation twice. -/
structure Accounted (c : Client σ) (t : Tasks σ) : Prop where
  client : HasDrawn c t.client t.begun
  /-- The client before each of the tasks has drawn what the tasks before that one draw. -/
  task : ∀ i (hi : i < t.begun.length), HasDrawn c t.begun[i].before (t.begun.take i)
  handed : t.handed.Nodup
  begun : ∀ i ∈ t.handed, i < t.begun.length
  /-- What the transport was asked for is what the tasks that have handed it over ask. -/
  asked : t.asked = t.handed.filterMap fun i ↦ t.begun[i]?.bind Task.asks?

variable {c c' : Client σ} {t t' : Tasks σ} {tasks : List (Task σ)}

/-- A task that is started draws what it draws. -/
theorem HasDrawn.started (h : HasDrawn c c' tasks) (a : Action) :
    HasDrawn c (c'.started a) (tasks ++ [⟨c', a⟩]) := by
  obtain ⟨hnextId, hdrawn, huuids⟩ := h
  cases hcall : a.isCall with
  | false =>
    have hstarted : c'.started a = c' := if_neg (by simp [hcall])
    rw [hstarted]
    refine ⟨?_, ?_, huuids⟩
    · simpa [Task.isSequential, Task.isCall, hcall] using hnextId
    · simpa [Task.isRandom, Task.isCall, hcall] using hdrawn
  | true =>
    have hstarted : c'.started a = c'.drawId.2 := if_pos hcall
    rw [hstarted, drawId]
    cases hstyle : c'.idStyle with
    | sequential =>
      refine ⟨?_, ?_, huuids⟩
      · simp [Task.isSequential, Task.isCall, hcall, hstyle, hnextId, UInt64.add_assoc,
          UInt64.ofNat_add]
      · simpa [Task.isRandom, Task.isCall, hcall, hstyle] using hdrawn
    | uuid =>
      refine ⟨?_, ?_, huuids⟩
      · simpa [Task.isSequential, Task.isCall, hcall, hstyle] using hnextId
      · simp [Task.isRandom, Task.isCall, hcall, hstyle, hdrawn, Nat.add_assoc]

/-- What else changes in a client makes no difference to what it has drawn. -/
theorem HasDrawn.elsewhere (h : HasDrawn c c' tasks) {c'' : Client σ}
    (hnextId : c''.nextId = c'.nextId) (hdrawn : c''.drawn = c'.drawn)
    (huuids : c''.uuids = c'.uuids) : HasDrawn c c'' tasks :=
  ⟨hnextId.trans h.nextId, hdrawn.trans h.drawn, huuids.trans h.uuids⟩

theorem Accounted.start (c : Client σ) : Accounted c (.start c) where
  client := ⟨(UInt64.add_zero _).symm, rfl, rfl⟩
  task i hi := absurd hi (Nat.not_lt_zero i)
  handed := List.nodup_nil
  begun := List.forall_mem_nil _
  asked := rfl

section

variable [Transport σ] {m : Move σ} {moves : List (Move σ)}

/-- What a move does is accounted for: a task that is started draws what it draws, and one that
hands over its operation had not done so. -/
theorem Accounted.step (h : Accounted c t) (hstep : t.step m = some t') : Accounted c t' := by
  cases m with
  | start a =>
    cases hstep
    refine ⟨h.client.started a, ?_, h.handed, ?_, h.asked.trans ?_⟩
    · intro i hi
      rw [List.length_append, List.length_singleton] at hi
      rcases Nat.lt_succ_iff_lt_or_eq.1 hi with hlt | rfl
      · rw [List.getElem_append_left hlt, List.take_append_of_le_length (Nat.le_of_lt hlt)]
        exact h.task i hlt
      · simpa using h.client
    · intro i hi
      rw [List.length_append, List.length_singleton]
      exact Nat.lt_succ_of_lt (h.begun i hi)
    · -- the tasks that have handed something over are where they were
      refine List.filterMap_congr fun i hi ↦ ?_
      rw [List.getElem?_append_left (h.begun i hi)]
  | hand i =>
    simp only [Tasks.step] at hstep
    split at hstep
    case h_1 op hop =>
      split at hstep
      case isTrue => cases hstep
      case isFalse hfresh =>
        cases hstep
        refine ⟨h.client.elsewhere rfl rfl rfl, h.task, ?_, ?_, ?_⟩
        · refine List.nodup_append.2 ⟨h.handed, List.pairwise_singleton _ i, ?_⟩
          intro j hj k hk
          obtain rfl := List.mem_singleton.1 hk
          rintro rfl
          exact hfresh hj
        · obtain ⟨b, hb, -⟩ := Option.bind_eq_some_iff.1 hop
          obtain ⟨hi, -⟩ := List.getElem?_eq_some_iff.1 hb
          exact List.forall_mem_append.2 ⟨h.begun, List.forall_mem_singleton.2 hi⟩
        · simp only [List.filterMap_append, List.filterMap_cons, List.filterMap_nil, hop, h.asked]
    case h_2 => cases hstep
  | restyle idStyle paramsStyle =>
    cases hstep
    exact ⟨h.client.elsewhere rfl rfl rfl, h.task, h.handed, h.begun, h.asked⟩
  | elsewhere transport =>
    cases hstep
    exact ⟨h.client.elsewhere rfl rfl rfl, h.task, h.handed, h.begun, h.asked⟩

theorem Accounted.play (h : Accounted c t) (hplay : t.play moves = some t') : Accounted c t' := by
  induction moves generalizing t with
  | nil =>
    cases hplay
    exact h
  | cons m moves ih =>
    rw [Tasks.play] at hplay
    cases hstep : t.step m with
    | some next =>
      rw [hstep] at hplay
      exact ih (h.step hstep) hplay
    | none =>
      rw [hstep] at hplay
      cases hplay

/-! ### Actions one after another -/

/-- The task of a turn. -/
def Turn.task (t : Turn σ) : Task σ :=
  ⟨t.before, t.action⟩

/-- An action that is performed is started, and then hands over what it asks. -/
theorem exists_play_act (t : Tasks σ) (a : Action) (hfresh : t.begun.length ∉ t.handed) :
    ∃ moves handed, (∀ i ∈ handed, i = t.begun.length) ∧ ∀ rest, t.play (moves ++ rest) =
      Tasks.play ⟨(t.client.act a).client, t.begun ++ [⟨t.client, a⟩], t.handed ++ handed,
        t.asked ++ (t.client.asks? a).toList⟩ rest := by
  have hlast : (t.begun ++ [⟨t.client, a⟩])[t.begun.length]?.bind Task.asks? =
      t.client.asks? a := by
    rw [List.getElem?_concat_length]
    rfl
  have hclient := act_client t.client a
  cases hasks : t.client.asks? a with
  | none =>
    refine ⟨[.start a], [], List.forall_mem_nil _, fun rest ↦ ?_⟩
    rw [hasks, Option.elim_none, ← started_transport t.client a] at hclient
    rw [hclient, Option.toList_none, List.append_nil, List.append_nil]
    rfl
  | some op =>
    refine ⟨[.start a, .hand t.begun.length], [t.begun.length],
      List.forall_mem_singleton.2 rfl, fun rest ↦ ?_⟩
    rw [hasks, Option.elim_some, ← started_transport t.client a] at hclient
    rw [hasks] at hlast
    rw [hclient, Option.toList_some]
    simp only [List.cons_append, List.nil_append, Tasks.play, Tasks.step, hlast, hfresh, if_false]

/-- Actions that are performed one after another are tasks each of which hands over what it asks
before the next one is started. -/
theorem exists_play_turns (t : Tasks σ) (hhanded : ∀ i ∈ t.handed, i < t.begun.length)
    (actions : List Action) :
    ∃ moves t', t.play moves = some t' ∧
      t'.client = t.client.afterTurns (t.client.turns actions) ∧
      t'.begun = t.begun ++ (t.client.turns actions).map Turn.task ∧
      t'.asked = t.asked ++ (t.client.turns actions).filterMap Turn.asks? := by
  induction actions generalizing t with
  | nil => exact ⟨[], t, rfl, rfl, (List.append_nil _).symm, (List.append_nil _).symm⟩
  | cons a actions ih =>
    obtain ⟨moves, handed, hlast, hmoves⟩ :=
      exists_play_act t a fun hmem ↦ Nat.lt_irrefl _ (hhanded _ hmem)
    let next : Tasks σ := ⟨(t.client.act a).client, t.begun ++ [⟨t.client, a⟩],
      t.handed ++ handed, t.asked ++ (t.client.asks? a).toList⟩
    have hnext : ∀ i ∈ next.handed, i < next.begun.length := by
      intro i hi
      rw [List.length_append, List.length_singleton]
      rcases List.mem_append.1 hi with hi | hi
      · exact Nat.lt_succ_of_lt (hhanded i hi)
      · rw [hlast i hi]
        exact Nat.lt_succ_self _
    rcases turns_cons t.client a actions with ⟨-, hturns⟩ | ⟨-, hturns⟩
    · refine ⟨moves ++ [], next, hmoves [], ?_, ?_, ?_⟩
      · rw [hturns]
        rfl
      · rw [hturns]
        rfl
      · rw [hturns, List.filterMap_cons, Turn.asks?]
        cases hasks : t.client.asks? a <;> simp [next, hasks]
    · obtain ⟨later, t', hplay, hclient, hbegun, hasked⟩ := ih next hnext
      refine ⟨moves ++ later, t', (hmoves later).trans hplay, ?_, ?_, ?_⟩
      · rw [hturns]
        exact hclient
      · rw [hturns, hbegun, List.append_assoc]
        rfl
      · rw [hasked, hturns, List.filterMap_cons, Turn.asks?]
        cases hasks : t.client.asks? a <;> simp [next, hasks]

end

/-! ### Ids -/

section

variable {α : Type*} {p : α → Bool} {l : List α} {i j : Nat}

/-- From one place of a list to a later one there is more to count, if there is something at the
first. -/
theorem countP_take_lt_countP_take (hij : i < j) (hi : i < l.length) (hp : p l[i] = true) :
    (l.take i).countP p < (l.take j).countP p := by
  have hnext : (l.take (i + 1)).countP p = (l.take i).countP p + 1 := by
    rw [List.take_succ_eq_append_getElem hi, List.countP_append, List.countP_singleton, if_pos hp]
  have hle : (l.take (i + 1)).countP p ≤ (l.take j).countP p :=
    (List.take_sublist_take_left hij).countP_le
  omega

theorem countP_take_lt (hi : i < l.length) (hp : p l[i] = true) :
    (l.take i).countP p < l.countP p := by
  have hlt := countP_take_lt_countP_take hi hi hp
  rwa [List.take_length] at hlt

end

theorem drawId_of_uuid (h : c.idStyle = .uuid) : c.drawId.1 = .string (c.uuids c.drawn) := by
  simp only [drawId, h]

theorem toNat_one_add_ofNat (k : Nat) : (1 + UInt64.ofNat k).toNat = (1 + k) % UInt64.size := by
  rw [UInt64.toNat_add, UInt64.toNat_ofNat', UInt64.toNat_one]
  simp only [UInt64.size]
  omega

/-- There are no more calls that draw numbers than there are calls. -/
theorem countP_isSequential_le (tasks : List (Task σ)) :
    tasks.countP Task.isSequential ≤ tasks.countP Task.isCall := by
  refine List.countP_mono_left fun b _ hb ↦ ?_
  exact (Bool.and_eq_true_iff.1 hb).1

namespace Accounted

variable (h : Accounted c t) {i j : Nat}

include h

/-- A call that draws a number draws the next after those drawn before. -/
theorem toNat_nextId (hnext : c.nextId = 1) (hcalls : t.begun.countP Task.isCall < UInt64.size)
    (hi : i < t.begun.length) (hsequential : t.begun[i].isSequential = true) :
    t.begun[i].before.nextId.toNat = 1 + (t.begun.take i).countP Task.isSequential := by
  have hlt := countP_take_lt hi hsequential
  have hle := countP_isSequential_le t.begun
  rw [(h.task i hi).nextId, hnext, toNat_one_add_ofNat, Nat.mod_eq_of_lt (by omega)]

/-- A number that is drawn later is greater. -/
theorem nextId_lt (hnext : c.nextId = 1) (hcalls : t.begun.countP Task.isCall < UInt64.size)
    (hij : i < j) (hi : i < t.begun.length) (hj : j < t.begun.length)
    (hsi : t.begun[i].isSequential = true) (hsj : t.begun[j].isSequential = true) :
    t.begun[i].before.nextId < t.begun[j].before.nextId := by
  have hlt := countP_take_lt_countP_take hij hi hsi
  rw [UInt64.lt_iff_toNat_lt, h.toNat_nextId hnext hcalls hi hsi,
    h.toNat_nextId hnext hcalls hj hsj]
  omega

theorem pairwise_nextId_lt (hnext : c.nextId = 1)
    (hcalls : t.begun.countP Task.isCall < UInt64.size) :
    (t.begun.filter Task.isSequential).Pairwise
      fun b b' ↦ b.before.nextId < b'.before.nextId := by
  rw [List.pairwise_filter, List.pairwise_iff_getElem]
  intro i j hi hj hij hsi hsj
  exact h.nextId_lt hnext hcalls hij hi hj hsi hsj

/-- Two calls do not draw the same id, if no UUID comes twice. -/
theorem id_ne (hnext : c.nextId = 1) (hcalls : t.begun.countP Task.isCall < UInt64.size)
    (huuids : ∀ m n, c.drawn ≤ m → m < n → n < t.client.drawn → c.uuids m ≠ c.uuids n)
    (hij : i < j) (hi : i < t.begun.length) (hj : j < t.begun.length)
    (hci : t.begun[i].isCall = true) (hcj : t.begun[j].isCall = true) :
    t.begun[i].before.drawId.1 ≠ t.begun[j].before.drawId.1 := by
  cases hsi : t.begun[i].before.idStyle with
  | sequential =>
    rw [drawId_of_sequential hsi]
    cases hsj : t.begun[j].before.idStyle with
    | sequential =>
      rw [drawId_of_sequential hsj]
      have hlt := h.nextId_lt hnext hcalls hij hi hj (by simp [Task.isSequential, hci, hsi])
        (by simp [Task.isSequential, hcj, hsj])
      intro heq
      injection heq with heq
      exact absurd heq (UInt64.ne_of_lt hlt)
    | uuid =>
      rw [drawId_of_uuid hsj]
      exact nofun
  | uuid =>
    rw [drawId_of_uuid hsi]
    cases hsj : t.begun[j].before.idStyle with
    | sequential =>
      rw [drawId_of_sequential hsj]
      exact nofun
    | uuid =>
      rw [drawId_of_uuid hsj, (h.task i hi).uuids, (h.task j hj).uuids, (h.task i hi).drawn,
        (h.task j hj).drawn]
      have hri : t.begun[i].isRandom = true := by simp [Task.isRandom, hci, hsi]
      have hrj : t.begun[j].isRandom = true := by simp [Task.isRandom, hcj, hsj]
      have hlt := countP_take_lt_countP_take hij hi hri
      have hlast := countP_take_lt hj hrj
      have hdrawn := h.client.drawn
      intro heq
      injection heq with heq
      exact huuids _ _ (Nat.le_add_right _ _) (by omega) (by omega) heq

end Accounted

/-! ### Requests -/

theorem Task.eq_of_request?_eq_some {b : Task σ} {e : RequestEnvelope} (h : b.request? = some e) :
    b.isCall = true ∧ e.id = b.before.drawId.1 := by
  rw [request?] at h
  split at h
  case isTrue hcall =>
    split at h
    · injection h with h
      exact ⟨hcall, by rw [← h]⟩
    · cases h
  case isFalse => cases h

/-- The request that a task asks for is the text of its envelope. -/
theorem Task.bind_requestText? (b : Task σ) :
    b.asks?.bind requestText? = b.request?.map RequestEnvelope.text := by
  rw [asks?, asks?_eq, request?]
  cases hcall : b.isCall with
  | true =>
    have haction : b.action.isCall = true := hcall
    cases prepare b.before.paramsStyle b.action.method b.action.params with
    | ok params => simp [Action.operation, haction, requestText?]
    | error e => rfl
  | false =>
    have haction : b.action.isCall = false := hcall
    cases prepare b.before.paramsStyle b.action.method b.action.params with
    | ok params => simp [Action.operation, haction, requestText?]
    | error e => rfl

/-- Two tasks do not ask for requests with the same id, if no UUID comes twice. -/
theorem Accounted.request_id_ne (h : Accounted c t) (hnext : c.nextId = 1)
    (hcalls : t.begun.countP Task.isCall < UInt64.size)
    (huuids : ∀ m n, c.drawn ≤ m → m < n → n < t.client.drawn → c.uuids m ≠ c.uuids n)
    {i j : Nat} (hne : i ≠ j) {e e' : RequestEnvelope}
    (he : t.begun[i]?.bind Task.request? = some e)
    (he' : t.begun[j]?.bind Task.request? = some e') : e.id ≠ e'.id := by
  -- both tasks are calls
  obtain ⟨b, hb, hrequest⟩ := Option.bind_eq_some_iff.1 he
  obtain ⟨b', hb', hrequest'⟩ := Option.bind_eq_some_iff.1 he'
  obtain ⟨hi, rfl⟩ := List.getElem?_eq_some_iff.1 hb
  obtain ⟨hj, rfl⟩ := List.getElem?_eq_some_iff.1 hb'
  obtain ⟨hcall, hid⟩ := Task.eq_of_request?_eq_some hrequest
  obtain ⟨hcall', hid'⟩ := Task.eq_of_request?_eq_some hrequest'
  rw [hid, hid']
  rcases Nat.lt_or_gt_of_ne hne with hij | hji
  · exact h.id_ne hnext hcalls huuids hij hi hj hcall hcall'
  · exact (h.id_ne hnext hcalls huuids hji hj hi hcall' hcall).symm

/-- The requests that the transport was asked for are those of the tasks. -/
theorem Accounted.requests (h : Accounted c t) :
    t.asked.filterMap requestText? = t.requests.map RequestEnvelope.text := by
  rw [h.asked, Tasks.requests, List.filterMap_filterMap, List.map_filterMap]
  refine List.filterMap_congr fun i _ ↦ ?_
  cases t.begun[i]? with
  | none => rfl
  | some b => exact b.bind_requestText?

/-- A task that draws a number asks for a request with that number. -/
theorem Task.exists_of_asks?_eq_some {b : Task σ} {op : Stream.Operation}
    (hsequential : b.isSequential = true) (h : b.asks? = some op) :
    ∃ params, op =
      .request (RequestEnvelope.text ⟨.number b.before.nextId, b.action.method, params⟩) := by
  obtain ⟨hcall, hstyle⟩ := Bool.and_eq_true_iff.1 hsequential
  have haction : b.action.isCall = true := hcall
  rw [asks?, asks?_eq] at h
  split at h
  · rename_i params _
    injection h with h
    refine ⟨params, ?_⟩
    rw [← h, drawId_of_sequential (of_decide_eq_true hstyle), Action.operation, if_pos haction]
  · cases h

/-- **Ids are accounted for.** Let tasks share a client whose next number is 1, and let there be
fewer calls than numbers.

* The next number of the client is 1 and the number of calls that were started while ids were
  numbers, in 64 bits. It makes no difference what became of them.
* So is the number that such a call has drawn, if those before it are counted, and if it asks for a
  request it is one with this number as its id. Numbers that are drawn later are greater.
* What the transport was asked for are requests, among others, of which no two have the same id, if
  no UUID comes twice among those that were drawn. -/
theorem play_ids [Transport σ] (hnext : c.nextId = 1) {moves : List (Move σ)}
    (hplay : (Tasks.start c).play moves = some t)
    (hcalls : t.begun.countP Task.isCall < UInt64.size) :
    t.client.nextId.toNat = (1 + t.begun.countP Task.isSequential) % UInt64.size ∧
    (∀ i (hi : i < t.begun.length), t.begun[i].isSequential = true →
      t.begun[i].before.nextId.toNat = 1 + (t.begun.take i).countP Task.isSequential ∧
      ∀ op, t.begun[i].asks? = some op → ∃ params, op = .request (RequestEnvelope.text
        ⟨.number t.begun[i].before.nextId, t.begun[i].action.method, params⟩)) ∧
    (t.begun.filter Task.isSequential).Pairwise
      (fun b b' ↦ b.before.nextId < b'.before.nextId) ∧
    t.asked.filterMap requestText? = t.requests.map RequestEnvelope.text ∧
    ((∀ m n, c.drawn ≤ m → m < n → n < t.client.drawn → c.uuids m ≠ c.uuids n) →
      (t.requests.map RequestEnvelope.id).Nodup) := by
  have h : Accounted c t := (Accounted.start c).play hplay
  refine ⟨?_, ?_, ?_, h.requests, ?_⟩
  · rw [h.client.nextId, hnext, toNat_one_add_ofNat]
  · intro i hi hsequential
    exact ⟨h.toNat_nextId hnext hcalls hi hsequential,
      fun op hop ↦ Task.exists_of_asks?_eq_some hsequential hop⟩
  · exact h.pairwise_nextId_lt hnext hcalls
  · intro huuids
    rw [List.Nodup, List.pairwise_map, Tasks.requests, List.pairwise_filterMap]
    exact h.handed.imp fun hne _ he _ he' ↦ h.request_id_ne hnext hcalls huuids hne he he'

/-- A client that counts, on a stream that ends at once. -/
def counting : Client Stream where
  transport := { framing := .lines, reader := ⟨[], []⟩, writer := {} }
  idStyle := .sequential
  uuids _ := "u"

/-- Calls that are started while ids are numbers, while they are UUIDs, and with a blank method, and
that hand over their requests in another order. -/
def mixedMoves : List (Move Stream) :=
  [.start (.call "a" .nothing), .restyle .uuid .byName, .start (.call "b" .nothing),
    .restyle .sequential .positional, .start (.call " " .nothing), .start (.notify "n" .nothing),
    .start (.call "c" .nothing), .hand 4, .hand 1, .hand 3, .hand 0]

/-- The ids of these calls. -/
theorem play_ids_mixedMoves :
    ∃ t, counting.nextId = 1 ∧ (Tasks.start counting).play mixedMoves = some t ∧
      t.begun.countP Task.isCall < UInt64.size ∧ t.client.nextId.toNat = 4 ∧
      t.requests.map RequestEnvelope.id = [.number 3, .string "u", .number 1] ∧
      (t.requests.map RequestEnvelope.id).Nodup := by
  have hpossible : ((Tasks.start counting).play mixedMoves).map
      (fun t ↦ (t.begun.countP Task.isCall, t.begun.countP Task.isSequential, t.client.drawn,
        t.requests.map RequestEnvelope.id)) =
      some (4, 3, 1, [.number 3, .string "u", .number 1]) := by
    decide +kernel
  obtain ⟨t, hplay, ht⟩ := Option.map_eq_some_iff.1 hpossible
  obtain ⟨hcalls, hsequential, hdrawn, hids⟩ : t.begun.countP Task.isCall = 4 ∧
      t.begun.countP Task.isSequential = 3 ∧ t.client.drawn = 1 ∧
      t.requests.map RequestEnvelope.id = [.number 3, .string "u", .number 1] := by
    simpa using ht
  have hfew : t.begun.countP Task.isCall < UInt64.size := by
    rw [hcalls]
    decide
  obtain ⟨hnextId, -, -, -, hnodup⟩ := play_ids rfl hplay hfew
  refine ⟨t, rfl, hplay, hfew, ?_, hids, hnodup ?_⟩
  · rw [hnextId, hsequential]
    rfl
  · intro m n _ hmn hn
    rw [hdrawn] at hn
    omega

/-- There are no more calls among the turns than among the actions. -/
theorem countP_isCall_turns_le [Transport σ] (c : Client σ) (actions : List Action) :
    ((c.turns actions).map Turn.task).countP Task.isCall ≤ actions.countP Action.isCall := by
  induction actions generalizing c with
  | nil => exact Nat.le_refl 0
  | cons a actions ih =>
    have hhead : Task.isCall (⟨c, a⟩ : Task σ) = a.isCall := rfl
    rcases turns_cons c a actions with ⟨-, hturns⟩ | ⟨-, hturns⟩ <;>
      rw [hturns, List.map_cons, List.countP_cons, List.countP_cons, Turn.task, hhead]
    · exact Nat.add_le_add_right (Nat.zero_le _) _
    · exact Nat.add_le_add_right (ih _) _

/-- **The ids of calls that are made one after another are accounted for**, as those of tasks are
that share a client (`play_ids`). Let actions be performed on a client whose next number is 1, with
fewer calls than numbers among them.

* Afterwards the next number of the client is 1 and the number of calls that were made while ids
  were numbers, in 64 bits, whatever became of them.
* The number of such a call is 1 and the number of those before it, and what it asks of the
  transport is a request with this number as its id.
* No two of the requests that the transport is asked for have the same id, if no UUID comes twice.
  -/
theorem turns_ids [Transport σ] (hnext : c.nextId = 1) {actions : List Action}
    (hcalls : actions.countP Action.isCall < UInt64.size) :
    let turns := c.turns actions
    let tasks := turns.map Turn.task
    let requests := tasks.filterMap Task.request?
    (c.afterTurns turns).nextId.toNat =
      (1 + tasks.countP Task.isSequential) % UInt64.size ∧
    (∀ i (hi : i < tasks.length), tasks[i].isSequential = true →
      tasks[i].before.nextId.toNat = 1 + (tasks.take i).countP Task.isSequential ∧
      ∀ op, tasks[i].asks? = some op → ∃ params, op = .request (RequestEnvelope.text
        ⟨.number tasks[i].before.nextId, tasks[i].action.method, params⟩)) ∧
    (turns.filterMap Turn.asks?).filterMap requestText? = requests.map RequestEnvelope.text ∧
    ((∀ m n, c.drawn ≤ m → m < n → n < (c.afterTurns turns).drawn → c.uuids m ≠ c.uuids n) →
      (requests.map RequestEnvelope.id).Nodup) := by
  intro turns tasks requests
  obtain ⟨moves, t, hplay, hclient, hbegun, -⟩ :=
    exists_play_turns (.start c) (List.forall_mem_nil _) actions
  have h : Accounted c t := (Accounted.start c).play hplay
  replace hbegun : t.begun = tasks := hbegun
  replace hclient : t.client = c.afterTurns turns := hclient
  have hfew : t.begun.countP Task.isCall < UInt64.size := by
    rw [hbegun]
    exact Nat.lt_of_le_of_lt (countP_isCall_turns_le c actions) hcalls
  rw [← hclient, ← hbegun]
  refine ⟨?_, fun i hi hsequential ↦ ⟨h.toNat_nextId hnext hfew hi hsequential,
    fun op hop ↦ Task.exists_of_asks?_eq_some hsequential hop⟩, ?_, fun huuids ↦ ?_⟩
  · rw [h.client.nextId, hnext, toNat_one_add_ofNat]
  · rw [List.filterMap_filterMap, List.map_filterMap, List.filterMap_map]
    exact List.filterMap_congr fun turn _ ↦ turn.task.bind_requestText?
  · rw [List.Nodup, List.pairwise_map, List.pairwise_filterMap, List.pairwise_iff_getElem]
    have hat : ∀ k (hk : k < tasks.length) {e : RequestEnvelope}, tasks[k].request? = some e →
        t.begun[k]?.bind Task.request? = some e := by
      intro k hk e he
      rw [hbegun, List.getElem?_eq_getElem hk]
      exact he
    intro i j hi hj hij e he e' he'
    exact h.request_id_ne hnext hfew huuids (Nat.ne_of_lt hij) (hat i hi he) (hat j hj he')

end Client

end LspClient
