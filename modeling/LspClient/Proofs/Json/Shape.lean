import LspClient.Json.Reader
import LspClient.Proofs.Decimal.Whole
import LspClient.Proofs.Json.Printing
import LspClient.Proofs.Json.Tokens

/-!
# Shapes of values

Conditions on all values inside a value, and an induction that goes through them
(`Json.induction`). The texts of scalars have the form that the grammar wants: a string is written
so that it says its characters (`spells_escape`), and an integer without leading zeros
(`isInteger_digits`).
-/

namespace LspClient.Json

/-! ### Induction -/

/-- What holds of a container if it holds of everything in it holds of every value. -/
theorem induction {P : Json → Prop} (hnull : P .null) (hbool : ∀ b, P (.bool b))
    (hnumber : ∀ n, P (.number n)) (hstring : ∀ s, P (.string s))
    (harray : ∀ xs, (∀ x ∈ xs, P x) → P (.array xs))
    (hobject : ∀ ms : Members, (∀ m ∈ ms, P m.2) → P (.object ms)) : ∀ v : Json, P v :=
  @Json.rec P (fun xs ↦ ∀ x ∈ xs, P x) (fun ms ↦ ∀ m ∈ ms, P m.2) (fun m ↦ P m.2)
    hnull hbool hnumber hstring harray hobject
    (List.forall_mem_nil _) (fun _ _ hx hxs ↦ List.forall_mem_cons.2 ⟨hx, hxs⟩)
    (List.forall_mem_nil _) (fun _ _ hm hms ↦ List.forall_mem_cons.2 ⟨hm, hms⟩)
    (fun _ _ hv ↦ hv)

/-! ### Conditions on values -/

mutual

/-- A condition holds of a value and of every value inside it. -/
def All (p : Json → Prop) : Json → Prop
  | .null => p .null
  | .bool b => p (.bool b)
  | .number n => p (.number n)
  | .string s => p (.string s)
  | .array xs => p (.array xs) ∧ AllElements p xs
  | .object ms => p (.object ms) ∧ AllMembers p ms

/-- `Json.All` for each element. -/
def AllElements (p : Json → Prop) : List Json → Prop
  | [] => True
  | x :: xs => All p x ∧ AllElements p xs

/-- `Json.All` for each member's value. -/
def AllMembers (p : Json → Prop) : Members → Prop
  | [] => True
  | (_, v) :: ms => All p v ∧ AllMembers p ms

end

/-- What holds of an array and everything in it holds of it and of its elements. -/
theorem all_array {p : Json → Prop} {xs : List Json} :
    All p (.array xs) ↔ p (.array xs) ∧ ∀ x ∈ xs, All p x := by
  have helements : AllElements p xs ↔ ∀ x ∈ xs, All p x := by
    induction xs with
    | nil => simp [AllElements]
    | cons x xs ih => rw [AllElements, ih, List.forall_mem_cons]
  rw [All, helements]

/-- What holds of an object and everything in it holds of it and of its members. -/
theorem all_object {p : Json → Prop} {ms : Members} :
    All p (.object ms) ↔ p (.object ms) ∧ ∀ m ∈ ms, All p m.2 := by
  have hmembers : AllMembers p ms ↔ ∀ m ∈ ms, All p m.2 := by
    induction ms with
    | nil => simp [AllMembers]
    | cons m ms ih => rw [AllMembers, ih, List.forall_mem_cons]
  rw [All, hmembers]

mutual

/-- How deep arrays and objects are nested in a value. -/
def depth : Json → Nat
  | .array xs => depthElements xs + 1
  | .object ms => depthMembers ms + 1
  | _ => 0

/-- The greatest depth of an element. -/
def depthElements : List Json → Nat
  | [] => 0
  | x :: xs => max (depth x) (depthElements xs)

/-- The greatest depth of a member's value. -/
def depthMembers : Members → Nat
  | [] => 0
  | (_, v) :: ms => max (depth v) (depthMembers ms)

end

/-- An array nests one level deeper than its elements. -/
theorem depth_array_le {xs : List Json} {n : Nat} :
    depth (.array xs) ≤ n + 1 ↔ ∀ x ∈ xs, depth x ≤ n := by
  have helements : depthElements xs ≤ n ↔ ∀ x ∈ xs, depth x ≤ n := by
    induction xs with
    | nil => simp [depthElements]
    | cons x xs ih => rw [depthElements, Nat.max_le, ih, List.forall_mem_cons]
  rw [depth, Nat.add_le_add_iff_right, helements]

/-- An object nests one level deeper than its members. -/
theorem depth_object_le {ms : Members} {n : Nat} :
    depth (.object ms) ≤ n + 1 ↔ ∀ m ∈ ms, depth m.2 ≤ n := by
  have hmembers : depthMembers ms ≤ n ↔ ∀ m ∈ ms, depth m.2 ≤ n := by
    induction ms with
    | nil => simp [depthMembers]
    | cons m ms ih => rw [depthMembers, Nat.max_le, ih, List.forall_mem_cons]
  rw [depth, Nat.add_le_add_iff_right, hmembers]

/-- Every number is an integer. -/
def IsIntegral (v : Json) : Prop :=
  v.All fun
    | .number (.real _) => False
    | _ => True

/-- Every object has its members in ascending order of names. -/
def IsCanonical (v : Json) : Prop :=
  v.All fun
    | .object ms => (ms.map Prod.fst).Pairwise (· < ·)
    | _ => True

/-- No object begins with a member of the reserved name. -/
def IsPlain (v : Json) : Prop :=
  v.All fun
    | .object ((name, _) :: _) => name.toList ≠ embeddedName
    | _ => True

/-! ### Numbers -/

/-- The digits of a number are an integer by the grammar. -/
theorem isInteger_digits (n : Nat) : IsInteger (Decimal.digits n) := by
  by_cases h : n = 0
  · subst h
    exact .zero
  · obtain ⟨c, cs, hcs, hne, hdigit⟩ := Decimal.exists_digits_eq_cons h
    rw [hcs]
    exact .digits hne hdigit

theorem IsInteger.isUnsigned {s : List Char} (h : IsInteger s) : IsUnsigned s := by
  have hmk := IsUnsigned.mk h .none .none
  rwa [List.append_nil, List.append_nil] at hmk

/-! ### Strings -/

/-- A character is written so that it says itself. -/
theorem spells_escapeChar (c : Char) {cs s : List Char} (h : Spells cs s) :
    Spells (c :: cs) (escapeChar c ++ s) := by
  have hhex : ∀ n, n < 16 → Text.hexValue? (Text.hexDigit n) = some n := by decide
  have hzero : Text.hexValue? '0' = some 0 := by decide
  have hchar : ∀ n, c.toNat = n → c = Char.ofNat n := fun n hn ↦ by rw [← hn, Char.ofNat_toNat]
  unfold escapeChar
  split
  · rename_i hc
    subst hc
    exact .escape (e := ('"', '"')) (by decide) h
  split
  · rename_i hc
    subst hc
    exact .escape (e := ('\\', '\\')) (by decide) h
  split
  · exact .char ⟨by assumption, by assumption, by assumption⟩ h
  split
  · rename_i hc
    subst hc
    exact .escape (e := ('n', '\n')) (by decide) h
  split
  · rename_i hc
    subst hc
    exact .escape (e := ('r', '\r')) (by decide) h
  split
  · rename_i hc
    subst hc
    exact .escape (e := ('t', '\t')) (by decide) h
  split
  · rename_i hc
    obtain rfl := hchar _ hc
    exact .escape (e := ('b', '\x08')) (by decide) h
  split
  · rename_i hc
    obtain rfl := hchar _ hc
    exact .escape (e := ('f', '\x0C')) (by decide) h
  · have hx := IsHex.mk hzero hzero (hhex (c.toNat / 16) (by omega))
      (hhex (c.toNat % 16) (by omega))
    have hn : 0 * 0x1000 + 0 * 0x100 + c.toNat / 16 * 0x10 + c.toNat % 16 = c.toNat := by omega
    rw [hn] at hx
    have hspells := Spells.unicode hx (by omega) h
    rwa [Char.ofNat_toNat] at hspells

/-- What is written between the quotes of a string says its characters. -/
theorem spells_escape (cs : List Char) : Spells cs (cs.flatMap escapeChar) := by
  induction cs with
  | nil => exact .nil
  | cons c cs ih =>
    rw [List.flatMap_cons]
    exact spells_escapeChar c ih

theorem printString_append (s : String) (rest : List Char) :
    printString s ++ rest = '"' :: (s.toList.flatMap escapeChar ++ '"' :: rest) := by
  rw [printString, List.cons_append, List.append_assoc, List.singleton_append]

end LspClient.Json
