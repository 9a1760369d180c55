import LspClient.Proofs.Transport.Failure
import Mathlib.Data.List.Forall2

/-!
# Runs in which every operation returns

What such a run leaves of the transport (`after`), how it goes on (`run_append`), and how the bytes
on the two streams are shared out among its operations (`run_owns`): each writes its own frame or
the start of it, and takes bytes of its own, of which its response is made.
-/

namespace LspClient.Transport.Stream

/-- The transport after operations performed one after another. -/
def after (s : Stream) (ops : List Operation) : Stream :=
  ops.foldl (fun s op ↦ (s.perform op).transport) s

theorem run_cons_of_returned {s : Stream} {op : Operation}
    (h : (s.perform op).outcome ≠ .never) (ops : List Operation) :
    s.run (op :: ops) =
      ⟨s, op, (s.perform op).outcome, (s.perform op).transport⟩ ::
        (s.perform op).transport.run ops := by
  rw [run]
  cases houtcome : (s.perform op).outcome with
  | done response => rfl
  | failed e => rfl
  | never => exact absurd houtcome h

theorem run_singleton (s : Stream) (op : Operation) :
    s.run [op] = [⟨s, op, (s.perform op).outcome, (s.perform op).transport⟩] := by
  rw [run]
  cases (s.perform op).outcome <;> rfl

/-- The first operation of a run returns if all do. -/
theorem perform_ne_never {s : Stream} {op : Operation} {ops : List Operation}
    (h : ∀ t ∈ s.run (op :: ops), t.outcome ≠ .never) : (s.perform op).outcome ≠ .never := by
  rw [run] at h
  exact h _ List.mem_cons_self

/-- If the operations of a run return, those that follow are performed on what it leaves. -/
theorem run_append {s : Stream} {ops : List Operation}
    (h : ∀ t ∈ s.run ops, t.outcome ≠ .never) (later : List Operation) :
    s.run (ops ++ later) = s.run ops ++ (s.after ops).run later := by
  induction ops generalizing s with
  | nil => rfl
  | cons op ops ih =>
    have hfirst := perform_ne_never h
    rw [run_cons_of_returned hfirst] at h ⊢
    rw [List.cons_append, run_cons_of_returned hfirst, List.cons_append,
      ih fun t ht ↦ h t (List.mem_cons_of_mem _ ht)]
    rfl

/-- The bytes that an operation of a run writes, and those it takes of what the server sends. -/
structure Turn.Owns (t : Turn) (out taken : List UInt8) : Prop where
  /-- Nothing is written but the frame of the operation's own message, or a part from its start. -/
  written : out <+: t.before.framing.frame t.operation.message
  /-- The whole frame is written if the operation succeeds. -/
  whole : ∀ response, t.outcome = .done response → out = t.before.framing.frame t.operation.message
  /-- A response is made of the last bytes that were taken. -/
  response : ∀ body, t.outcome = .done (some body) → ∃ skipped frame, taken = skipped ++ frame ∧
    (Scan.start t.before.framing).Takes body frame t.after.reader.incoming

/-- What a run writes is what its operations write, one after another, and what it takes of what the
server sends is what its operations take, one after another. -/
theorem run_owns {s : Stream} {ops : List Operation} (h : ∀ t ∈ s.run ops, t.outcome ≠ .never) :
    ∃ bytes : List (List UInt8 × List UInt8),
      (s.after ops).writer.written = s.writer.written ++ bytes.flatMap Prod.fst ∧
      s.reader.incoming = bytes.flatMap Prod.snd ++ (s.after ops).reader.incoming ∧
      List.Forall₂ (fun t (out, taken) ↦ t.Owns out taken) (s.run ops) bytes := by
  induction ops generalizing s with
  | nil => exact ⟨[], (List.append_nil _).symm, rfl, .nil⟩
  | cons op ops ih =>
    have hfirst := perform_ne_never h
    rw [run_cons_of_returned hfirst] at h ⊢
    obtain ⟨out, hout, hpart, hwhole⟩ := perform_written s op
    obtain ⟨taken, htaken, hresponse⟩ := perform_incoming s op
    obtain ⟨bytes, houts, htakens, howns⟩ := ih fun t ht ↦ h t (List.mem_cons_of_mem _ ht)
    refine ⟨(out, taken) :: bytes, ?_, ?_, .cons ⟨hpart, hwhole, hresponse⟩ howns⟩
    · exact houts.trans (by rw [hout, List.flatMap_cons, List.append_assoc])
    · exact htaken.trans (by rw [htakens, List.flatMap_cons, List.append_assoc]; rfl)

end LspClient.Transport.Stream
