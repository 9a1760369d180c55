import LspClient.Proofs.Json.Members
import LspClient.Proofs.Json.Shape

/-!
# Members in ascending order

Members are collected in ascending order of names (`pairwise_collect`), and where no name stands
twice that changes nothing but their order (`collect_perm`). So sorting leaves a canonical value as
it is (`IsCanonical.sorted_eq`), and makes a canonical one of any other (`isCanonical_sorted`). What
is read is canonical (`isCanonical_of_read`) and has no object left that only embeds text
(`embedsNothing_of_read`).
-/

namespace LspClient.Json

/-! ### Collecting members -/

theorem mem_of_mem_insert {name : String} {v : Json} {m : String × Json} {ms : Members}
    (h : m ∈ insert name v ms) : m = (name, v) ∨ m ∈ ms := by
  induction ms with
  | nil => exact .inl (List.mem_singleton.1 h)
  | cons p ms ih =>
    obtain ⟨k, w⟩ := p
    rw [insert] at h
    split at h
    · exact List.mem_cons.1 h
    · split at h
      · exact (List.mem_cons.1 h).imp_right (List.mem_cons_of_mem _)
      · rcases List.mem_cons.1 h with rfl | h
        · exact .inr List.mem_cons_self
        · exact (ih h).imp_right (List.mem_cons_of_mem _)

/-- No member is made up. -/
theorem mem_of_mem_collect {m : String × Json} {ms : Members} (h : m ∈ collect ms) : m ∈ ms := by
  have hfoldl : ∀ acc : Members, m ∈ ms.foldl (fun acc m ↦ insert m.1 m.2 acc) acc →
      m ∈ acc ∨ m ∈ ms := by
    clear h
    induction ms with
    | nil => exact fun acc ↦ .inl
    | cons p ms ih =>
      intro acc h
      rcases ih _ h with h | h
      · rcases mem_of_mem_insert h with rfl | h
        · exact .inr List.mem_cons_self
        · exact .inl h
      · exact .inr (List.mem_cons_of_mem p h)
  exact (hfoldl [] h).resolve_left (List.not_mem_nil)

/-- Inserting a member keeps names in ascending order. -/
theorem pairwise_insert (name : String) (v : Json) {ms : Members}
    (h : (ms.map Prod.fst).Pairwise (· < ·)) :
    ((insert name v ms).map Prod.fst).Pairwise (· < ·) := by
  induction ms with
  | nil => exact List.pairwise_singleton _ _
  | cons m ms ih =>
    obtain ⟨k, w⟩ := m
    obtain ⟨hk, hms⟩ := List.pairwise_cons.1 h
    rw [insert]
    split
    · rename_i hlt
      refine List.pairwise_cons.2 ⟨?_, h⟩
      intro n hn
      rcases List.mem_cons.1 hn with rfl | hn
      · exact hlt
      · exact String.lt_trans hlt (hk n hn)
    · rename_i hnot
      split
      · rename_i heq
        subst heq
        exact h
      · rename_i hne
        refine List.pairwise_cons.2 ⟨?_, ih hms⟩
        intro n hn
        rcases mem_insert.1 hn with rfl | hn
        · exact Classical.byContradiction fun hge ↦
            hne (String.le_antisymm (String.not_lt.1 hge) (String.not_lt.1 hnot))
        · exact hk n hn

/-- The members that are collected have their names in ascending order. -/
theorem pairwise_collect (ms : Members) : ((collect ms).map Prod.fst).Pairwise (· < ·) := by
  have hfoldl : ∀ acc : Members, (acc.map Prod.fst).Pairwise (· < ·) →
      ((ms.foldl (fun acc m ↦ insert m.1 m.2 acc) acc).map Prod.fst).Pairwise (· < ·) := by
    induction ms with
    | nil => exact fun acc h ↦ h
    | cons m ms ih => exact fun acc h ↦ ih _ (pairwise_insert m.1 m.2 h)
  exact hfoldl [] .nil

/-- A member of a new name is put among the others. -/
theorem insert_perm {name : String} (v : Json) {ms : Members} (h : name ∉ ms.map Prod.fst) :
    (insert name v ms).Perm ((name, v) :: ms) := by
  induction ms with
  | nil => exact .refl _
  | cons m ms ih =>
    obtain ⟨k, w⟩ := m
    obtain ⟨hne, hms⟩ := not_or.1 (mt List.mem_cons.2 h)
    rw [insert, if_neg (show ¬name = k from hne)]
    split
    · exact .refl _
    · exact ((ih hms).cons (k, w)).trans (.swap _ _ ms)

/-- Members of which no name stands twice are only put into another order. -/
theorem collect_perm {ms : Members} (h : (ms.map Prod.fst).Nodup) : (collect ms).Perm ms := by
  have hfoldl : ∀ acc : Members, ((acc ++ ms).map Prod.fst).Nodup →
      (ms.foldl (fun acc m ↦ insert m.1 m.2 acc) acc).Perm (acc ++ ms) := by
    clear h
    induction ms with
    | nil => exact fun acc _ ↦ .of_eq (List.append_nil acc).symm
    | cons m ms ih =>
      intro acc h
      have hmiddle : (acc ++ m :: ms).Perm (m :: (acc ++ ms)) := List.perm_middle
      have hnodup := (hmiddle.map Prod.fst).nodup_iff.1 h
      obtain ⟨hm, -⟩ := List.nodup_cons.1 hnodup
      have hnew : m.1 ∉ acc.map Prod.fst := fun hmem ↦
        hm (by rw [List.map_append]; exact List.mem_append_left _ hmem)
      have hinsert := (insert_perm m.2 hnew).append_right ms
      have hstep : (insert m.1 m.2 acc ++ ms).Perm (acc ++ m :: ms) :=
        hinsert.trans hmiddle.symm
      exact (ih _ ((hstep.map Prod.fst).nodup_iff.2 h)).trans hstep
  exact hfoldl [] h

/-- Names in ascending order are each there once. -/
theorem nodup_of_pairwise_lt {names : List String} (h : names.Pairwise (· < ·)) : names.Nodup := by
  refine h.imp ?_
  rintro a b hlt rfl
  exact String.lt_irrefl a hlt

/-- Members in ascending order are determined by which they are. -/
theorem eq_of_perm {ms ms' : Members} (h : ms.Perm ms') (hms : (ms.map Prod.fst).Pairwise (· < ·))
    (hms' : (ms'.map Prod.fst).Pairwise (· < ·)) : ms = ms' := by
  rw [List.pairwise_map] at hms hms'
  exact h.eq_of_pairwise (fun _ _ _ _ hlt hgt ↦ absurd hgt (String.lt_asymm hlt)) hms hms'

/-! ### Conditions on values -/

/-- What holds of a value and everything in it still does if less is asked. -/
theorem All.imp {p q : Json → Prop} (hpq : ∀ v, p v → q v) {v : Json} (h : v.All p) :
    v.All q := by
  induction v using Json.induction with
  | hnull | hbool | hnumber | hstring => exact hpq _ h
  | harray xs ih =>
    obtain ⟨hself, hxs⟩ := all_array.1 h
    exact all_array.2 ⟨hpq _ hself, fun x hx ↦ ih x hx (hxs x hx)⟩
  | hobject ms ih =>
    obtain ⟨hself, hms⟩ := all_object.1 h
    exact all_object.2 ⟨hpq _ hself, fun m hm ↦ ih m hm (hms m hm)⟩

/-- A condition on objects alone holds of scalars. -/
theorem all_of_scalar {p : Json → Prop} {v : Json} (hxs : ∀ xs, v ≠ .array xs)
    (hms : ∀ ms, v ≠ .object ms) (h : p v) : v.All p := by
  cases v with
  | null | bool | number | string => exact h
  | array xs => exact absurd rfl (hxs xs)
  | object ms => exact absurd rfl (hms ms)

/-- An array is canonical if its elements are. -/
theorem isCanonical_array {xs : List Json} :
    IsCanonical (.array xs) ↔ ∀ x ∈ xs, x.IsCanonical :=
  all_array.trans (and_iff_right trivial)

/-- An object is canonical if its names ascend and its members are canonical. -/
theorem isCanonical_object {ms : Members} :
    IsCanonical (.object ms) ↔
      (ms.map Prod.fst).Pairwise (· < ·) ∧ ∀ m ∈ ms, m.2.IsCanonical :=
  all_object

/-- In no object does a name stand twice. -/
def HasUniqueNames (v : Json) : Prop :=
  v.All fun
    | .object ms => (ms.map Prod.fst).Nodup
    | _ => True

theorem hasUniqueNames_object {ms : Members} :
    HasUniqueNames (.object ms) ↔
      (ms.map Prod.fst).Nodup ∧ ∀ m ∈ ms, m.2.HasUniqueNames :=
  all_object

/-- A canonical value has no name twice. -/
theorem IsCanonical.hasUniqueNames {v : Json} (h : v.IsCanonical) : v.HasUniqueNames := by
  refine All.imp ?_ h
  rintro (_ | _ | _ | _ | _ | ms) hms
  case object => exact nodup_of_pairwise_lt hms
  all_goals trivial

/-! ### Sorted values -/

theorem sortedElements_eq_map (xs : List Json) : sortedElements xs = xs.map sorted := by
  induction xs with
  | nil => rfl
  | cons x xs ih => rw [sortedElements, ih, List.map_cons]

theorem sortedMembers_eq_map (ms : Members) :
    sortedMembers ms = ms.map fun m ↦ (m.1, m.2.sorted) := by
  induction ms with
  | nil => rfl
  | cons m ms ih => rw [sortedMembers, ih, List.map_cons]

theorem sorted_array (xs : List Json) : (Json.array xs).sorted = .array (xs.map sorted) := by
  rw [sorted, sortedElements_eq_map]

theorem sorted_object (ms : Members) :
    (Json.object ms).sorted = .object (collect (ms.map fun m ↦ (m.1, m.2.sorted))) := by
  rw [sorted, sortedMembers_eq_map]

/-- Sorting makes no null. -/
theorem sorted_ne_null {v : Json} (h : v ≠ .null) : v.sorted ≠ .null := by
  cases v with
  | null => exact absurd rfl h
  | bool | number | string | array | object =>
    rw [sorted]
    exact nofun

/-- Sorting leaves a canonical value as it is. -/
theorem IsCanonical.sorted_eq {v : Json} (h : v.IsCanonical) : v.sorted = v := by
  induction v using Json.induction with
  | hnull | hbool | hnumber | hstring => rfl
  | harray xs ih =>
    have hxs := isCanonical_array.1 h
    rw [sorted_array, List.map_congr_left fun x hx ↦ ih x hx (hxs x hx), List.map_id']
  | hobject ms ih =>
    obtain ⟨hascending, hms⟩ := isCanonical_object.1 h
    have hsame : ∀ m ∈ ms, (m.1, m.2.sorted) = m := fun m hm ↦ by rw [ih m hm (hms m hm)]
    rw [sorted_object, List.map_congr_left hsame, List.map_id', collect_of_pairwise hascending]

/-- Sorting makes any value canonical. -/
theorem isCanonical_sorted (v : Json) : v.sorted.IsCanonical := by
  induction v using Json.induction with
  | hnull | hbool | hnumber | hstring => trivial
  | harray xs ih =>
    rw [sorted_array]
    refine isCanonical_array.2 fun y hy ↦ ?_
    obtain ⟨x, hx, rfl⟩ := List.mem_map.1 hy
    exact ih x hx
  | hobject ms ih =>
    rw [sorted_object]
    refine isCanonical_object.2 ⟨pairwise_collect _, fun m hm ↦ ?_⟩
    obtain ⟨m', hm', rfl⟩ := List.mem_map.1 (mem_of_mem_collect hm)
    exact ih m' hm'

/-- Sorting nests nothing deeper. -/
theorem depth_sorted_le {v : Json} {depth : Nat} (h : v.depth ≤ depth) :
    v.sorted.depth ≤ depth := by
  induction v using Json.induction generalizing depth with
  | hnull | hbool | hnumber | hstring => exact h
  | harray xs ih =>
    cases depth with
    | zero => exact absurd h (by rw [Json.depth]; omega)
    | succ d =>
      rw [sorted_array, depth_array_le]
      intro y hy
      obtain ⟨x, hx, rfl⟩ := List.mem_map.1 hy
      exact ih x hx (depth_array_le.1 h x hx)
  | hobject ms ih =>
    cases depth with
    | zero => exact absurd h (by rw [Json.depth]; omega)
    | succ d =>
      rw [sorted_object, depth_object_le]
      intro m hm
      obtain ⟨m', hm', rfl⟩ := List.mem_map.1 (mem_of_mem_collect hm)
      exact ih m' hm' (depth_object_le.1 h m' hm')

/-! ### Values that are read -/

/-- No object has the reserved name alone. -/
def EmbedsNothing (v : Json) : Prop :=
  v.All fun
    | .object [(name, _)] => name.toList ≠ embeddedName
    | _ => True

/-- What is read from a text is a value at its front. -/
theorem exists_of_read {s : String} {v : Json} (h : read s = .ok v) :
    ∃ r, strip (readValue true greatestDepth s.toList) = .ok (v, r) := by
  rw [read] at h
  split at h
  case h_1 => cases h
  case h_2 t ht =>
    split at h
    case h_1 =>
      injection h with hv
      refine ⟨t.rest, ?_⟩
      rw [ht, ← hv]
      rfl
    case h_2 => cases h

/-- A value that is read is canonical, wherever it stands. -/
theorem isCanonical_of_readValue {depth : Nat} {s r : List Char} {v : Json}
    (h : strip (readValue true depth s) = .ok (v, r)) : v.IsCanonical := by
  refine readValue_induction (P := IsCanonical) ?_ (fun xs ↦ isCanonical_array.2)
    (isCanonical_object.2 ⟨.nil, List.forall_mem_nil _⟩) ?_ h
  · intro v hxs hms
    refine all_of_scalar hxs hms ?_
    split
    · exact absurd rfl (hms _)
    · trivial
  · intro first w ms _ hms
    exact isCanonical_object.2 ⟨pairwise_collect _, fun m hm ↦ hms m (mem_of_mem_collect hm)⟩

/-- A value that is read from a text is canonical. -/
theorem isCanonical_of_read {s : String} {v : Json} (h : read s = .ok v) : v.IsCanonical := by
  obtain ⟨r, hread⟩ := exists_of_read h
  exact isCanonical_of_readValue hread

/-- A value that is read embeds nothing any more, wherever it stands. -/
theorem embedsNothing_of_readValue {depth : Nat} {s r : List Char} {v : Json}
    (h : strip (readValue true depth s) = .ok (v, r)) : v.EmbedsNothing := by
  refine readValue_induction (P := EmbedsNothing) ?_ (fun xs hxs ↦ all_array.2 ⟨trivial, hxs⟩)
    (all_object.2 ⟨trivial, List.forall_mem_nil _⟩) ?_ h
  · intro v hxs hms
    refine all_of_scalar hxs hms ?_
    split
    · exact absurd rfl (hms _)
    · trivial
  · intro first w ms hne hms
    refine all_object.2 ⟨?_, fun m hm ↦ hms m (mem_of_mem_collect hm)⟩
    split
    · rename_i name _ heq
      injection heq with heq
      have hmem : first ∈ (collect ((first, w) :: ms)).map Prod.fst :=
        mem_collect.2 List.mem_cons_self
      rw [heq] at hmem
      obtain rfl := List.mem_singleton.1 hmem
      exact hne
    · trivial

/-- A value that is read from a text embeds nothing any more. -/
theorem embedsNothing_of_read {s : String} {v : Json} (h : read s = .ok v) : v.EmbedsNothing := by
  obtain ⟨r, hread⟩ := exists_of_read h
  exact embedsNothing_of_readValue hread

end LspClient.Json
