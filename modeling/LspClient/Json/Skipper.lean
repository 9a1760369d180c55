import LspClient.Json.Token

/-!
# Skipping JSON

The skipping reader finds the end of a value without keeping it. It walks the text once, with the
containers that are open at each point on a stack of its own, so no depth of nesting is too much for
it. Numbers may be out of range and surrogates may be alone: what is skipped is never decoded.
-/

namespace LspClient.Json

/-- An open container. -/
inductive Container where
  | array
  | object
  deriving DecidableEq, Repr

/-- What must come next while skipping. -/
inductive Awaited where
  /-- A value. -/
  | value
  /-- A member's name. -/
  | name
  /-- What follows a value: a comma or the end of the innermost container. -/
  | separator
  deriving DecidableEq, Repr

/-- Skips to the end of the outermost open value; what is open is listed innermost first. -/
def skipFrom (awaited : Awaited) (stack : List Container) (s : List Char) :
    Except Fault (List Char) :=
  have hs := skipSpace_length_le s
  match awaited with
  | .value =>
    match ht : skipSpace s with
    | '[' :: r =>
      have hr := skipSpace_length_le r
      match hu : skipSpace r with
      | [] => .error ⟨.endInList, [], 0⟩
      | ']' :: r' =>
        have : r'.length < s.length := by
          simp only [ht, hu, List.length_cons] at hs hr; omega
        skipFrom .separator stack r'
      | u =>
        have : u.length < s.length := by
          simp only [ht, hu, List.length_cons] at hs hr; omega
        skipFrom .value (.array :: stack) u
    | '{' :: r =>
      have hr := skipSpace_length_le r
      match hu : skipSpace r with
      | [] => .error ⟨.endInObject, [], 0⟩
      | '}' :: r' =>
        have : r'.length < s.length := by
          simp only [ht, hu, List.length_cons] at hs hr; omega
        skipFrom .separator stack r'
      | u =>
        have : u.length < s.length := by
          simp only [ht, hu, List.length_cons] at hs hr; omega
        skipFrom .name (.object :: stack) u
    | t =>
      match hu : skipScalar t with
      | .error e => .error e
      | .ok u =>
        have : u.length < s.length := by
          have := skipScalar_length_lt hu
          simp only [ht] at hs; omega
        skipFrom .separator stack u
  | .name =>
    match ht : skipSpace s with
    | [] => .error ⟨.endInObject, [], 0⟩
    | '"' :: r =>
      match hu : skipString r with
      | .error e => .error e
      | .ok u =>
        have hv := skipSpace_length_le u
        match hw : skipSpace u with
        | [] => .error ⟨.endInObject, [], 0⟩
        | ':' :: w =>
          have : w.length < s.length := by
            have := skipString_length_lt hu
            simp only [ht, hw, List.length_cons] at hs hv; omega
          skipFrom .value stack w
        | w => .error (.peek .expectedColon w)
    | t => .error (.peek .keyMustBeString t)
  | .separator =>
    match stack with
    | [] => .ok s
    | .array :: outer =>
      match ht : skipSpace s with
      | [] => .error ⟨.endInList, [], 0⟩
      | ',' :: r =>
        have : r.length < s.length := by simp only [ht, List.length_cons] at hs; omega
        skipFrom .value (.array :: outer) r
      | ']' :: r =>
        have : r.length < s.length := by simp only [ht, List.length_cons] at hs; omega
        skipFrom .separator outer r
      | t => .error (.peek .expectedListCommaOrEnd t)
    | .object :: outer =>
      match ht : skipSpace s with
      | [] => .error ⟨.endInObject, [], 0⟩
      | ',' :: r =>
        have : r.length < s.length := by simp only [ht, List.length_cons] at hs; omega
        skipFrom .name (.object :: outer) r
      | '}' :: r =>
        have : r.length < s.length := by simp only [ht, List.length_cons] at hs; omega
        skipFrom .separator outer r
      | t => .error (.peek .expectedObjectCommaOrEnd t)
  termination_by s.length

theorem skipFrom_length {awaited : Awaited} {stack : List Container} {s r : List Char}
    (h : skipFrom awaited stack s = .ok r) :
    r.length ≤ s.length ∧ (awaited ≠ .separator → r.length < s.length) := by
  fun_induction skipFrom awaited stack s <;>
    first
    | contradiction
    | (rename_i ih; have := (ih h).1; exact ⟨by omega, fun _ ↦ by omega⟩)
    | (injection h with h; subst h; exact ⟨Nat.le_refl _, fun h ↦ absurd rfl h⟩)

/-- Skips one value. -/
def skipValue (s : List Char) : Reading Unit s :=
  match h : skipFrom .value [] s with
  | .error e => .error e
  | .ok r => .ok ⟨(), r, (skipFrom_length h).2 nofun⟩

/-- Whether a text is one JSON value, as the skipping reader judges it. -/
def isWellFormed (s : List Char) : Bool :=
  match skipFrom .value [] s with
  | .error _ => false
  | .ok r => (skipSpace r).isEmpty

end LspClient.Json
