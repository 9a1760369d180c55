import LspClient.Proofs.Json.Reading

/-!
# What the keeping reader makes of an object

The members of an object that is read are those that stand in its text, collected
(`exists_of_readMembers`). So an object that is read never has the reserved name alone
(`ne_embedded_of_readValue`): if the first member in the text bears that name, the object is read as
what is embedded in it, and if another comes first, that one is kept too (`cases_of_readMembers`).
-/

namespace LspClient.Json

/-! ### Collecting members -/

theorem mem_insert {name n : String} {v : Json} {ms : Members} :
    n ∈ (insert name v ms).map Prod.fst ↔ n = name ∨ n ∈ ms.map Prod.fst := by
  induction ms with
  | nil => simp [insert]
  | cons m ms ih =>
    obtain ⟨k, w⟩ := m
    rw [insert]
    split
    · simp
    · split
      · rename_i heq
        simp [heq]
      · simp only [List.map_cons, List.mem_cons, ih]
        grind

/-- Members are collected under the names that they have. -/
theorem mem_collect {n : String} {ms : Members} :
    n ∈ (collect ms).map Prod.fst ↔ n ∈ ms.map Prod.fst := by
  have hfoldl : ∀ acc : Members, n ∈ (ms.foldl (fun acc m ↦ insert m.1 m.2 acc) acc).map Prod.fst ↔
      n ∈ acc.map Prod.fst ∨ n ∈ ms.map Prod.fst := by
    induction ms with
    | nil => simp
    | cons m ms ih =>
      intro acc
      rw [List.foldl_cons, ih, mem_insert, List.map_cons, List.mem_cons]
      grind
  rw [collect]
  exact (hfoldl []).trans (by simp)

/-- A name greater than all others goes to the end. -/
theorem insert_of_forall_lt {name : String} {v : Json} {ms : Members}
    (h : ∀ n ∈ ms.map Prod.fst, n < name) : insert name v ms = ms ++ [(name, v)] := by
  induction ms with
  | nil => rfl
  | cons m ms ih =>
    obtain ⟨k, w⟩ := m
    obtain ⟨hk, hms⟩ := List.forall_mem_cons.1 h
    have hne : name ≠ k := by
      rintro rfl
      exact String.lt_irrefl name hk
    rw [insert, if_neg (String.lt_asymm hk), if_neg hne, ih hms]
    rfl

/-- Members in ascending order of names are collected as they are. -/
theorem collect_of_pairwise {ms : Members} (h : (ms.map Prod.fst).Pairwise (· < ·)) :
    collect ms = ms := by
  have hfoldl : ∀ acc : Members, ((acc ++ ms).map Prod.fst).Pairwise (· < ·) →
      ms.foldl (fun acc m ↦ insert m.1 m.2 acc) acc = acc ++ ms := by
    clear h
    induction ms with
    | nil => exact fun acc _ ↦ (List.append_nil acc).symm
    | cons m ms ih =>
      intro acc hacc
      have hlt : ∀ n ∈ acc.map Prod.fst, n < m.1 := by
        rw [List.map_append, List.pairwise_append] at hacc
        exact fun n hn ↦ hacc.2.2 n hn m.1 List.mem_cons_self
      have hsplit : acc ++ m :: ms = (acc ++ [m]) ++ ms := by
        rw [List.append_assoc, List.singleton_append]
      rw [List.foldl_cons, insert_of_forall_lt hlt, hsplit]
      exact ih (acc ++ [m]) (hsplit ▸ hacc)
  exact hfoldl [] h

/-! ### Values that are read -/

variable {embeds first : Bool} {depth : Nat} {s r : List Char} {v : Json}

/-- A value is read from some text of that length or a shorter one. -/
def IsReadWithin (embeds : Bool) (n : Nat) (v : Json) : Prop :=
  ∃ depth s r, s.length ≤ n ∧ strip (readValue embeds depth s) = .ok (v, r)

theorem IsReadWithin.mono {n m : Nat} (h : IsReadWithin embeds n v) (hle : n ≤ m) :
    IsReadWithin embeds m v := by
  obtain ⟨depth, s, r, hs, hread⟩ := h
  exact ⟨depth, s, r, Nat.le_trans hs hle, hread⟩

/-- The elements of an array are read from parts of its text. -/
theorem exists_of_readElements {taken xs : List Json}
    (h : strip (readElements embeds depth first taken s) = .ok (xs, r)) :
    ∃ ys, xs = taken.reverse ++ ys ∧ ∀ y ∈ ys, IsReadWithin embeds s.length y := by
  -- behind each element less of the text is left
  induction hn : s.length using Nat.strongRecOn generalizing s first taken with
  | ind n ih =>
    rcases begins_of_readElements h with ⟨r', hend⟩ | ⟨c, t, hbegins, hc⟩
    · rw [strip_readElements_end hend] at h
      injection h with h
      injection h with hxs
      exact ⟨[], by rw [List.append_nil, hxs], List.forall_mem_nil _⟩
    · rw [strip_readElements_item hbegins hc] at h
      obtain ⟨⟨y, u⟩, hy, hu⟩ := exists_of_bind_eq_ok h
      obtain ⟨hshort, -⟩ := strip_eq_ok.1 hy
      have hlength := hbegins.length_le
      obtain ⟨ys, hys, hread⟩ := ih u.length (by omega) hu rfl
      refine ⟨y :: ys, ?_, List.forall_mem_cons.2 ⟨⟨depth, c :: t, u, by omega, hy⟩, ?_⟩⟩
      · rw [hys, List.reverse_cons, List.append_assoc, List.singleton_append]
      · exact fun z hz ↦ (hread z hz).mono (by omega)

/-- After the first member an object is read as its members, collected, and their values are read
from parts of its text. -/
theorem exists_of_readMembers {taken : Members}
    (h : strip (readMembers embeds depth false taken s) = .ok (v, r)) :
    ∃ ms : Members, v = .object (collect (taken.reverse ++ ms)) ∧
      ∀ m ∈ ms, IsReadWithin embeds s.length m.2 := by
  -- behind each member less of the text is left
  induction hn : s.length using Nat.strongRecOn generalizing s taken with
  | ind n ih =>
    rcases ahead_of_readMembers h with ⟨r', hend⟩ | ⟨r', hahead⟩
    · rw [strip_readMembers_end hend] at h
      injection h with h
      injection h with hv
      exact ⟨[], by rw [List.append_nil, hv], List.forall_mem_nil _⟩
    · rw [strip_readMembers_member hahead] at h
      obtain ⟨name, u, hname⟩ := memberName_of_readMember h
      rw [strip_readMember hname, if_neg (by simp)] at h
      obtain ⟨⟨w, t⟩, hvalue, hrest⟩ := exists_of_bind_eq_ok h
      obtain ⟨hshort, -⟩ := strip_eq_ok.1 hvalue
      have hahead' := hahead.length_lt
      have hname' := memberName_length_lt hname
      obtain ⟨ms, hms, hread⟩ := ih t.length (by omega) hrest rfl
      refine ⟨(String.ofList name, w) :: ms, ?_,
        List.forall_mem_cons.2 ⟨⟨depth, u, t, by omega, hvalue⟩, ?_⟩⟩
      · rw [hms, List.reverse_cons, List.append_assoc, List.singleton_append]
      · exact fun m hm ↦ (hread m hm).mono (by omega)

theorem ne_container_of_readScalar (h : readScalar s = .ok (v, r)) :
    (∀ xs, v ≠ .array xs) ∧ ∀ ms, v ≠ .object ms := by
  rw [readScalar.eq_def] at h
  split at h
  case h_1 => cases h
  case h_7 =>
    split at h
    · obtain ⟨p, -, hp⟩ := exists_of_map_eq_ok h
      injection hp with hv
      subst hv
      exact ⟨by simp, by simp⟩
    · cases h
  all_goals
    obtain ⟨p, -, hp⟩ := exists_of_map_eq_ok h
    injection hp with hv
    subst hv
    exact ⟨by simp, by simp⟩

/-- An object is read as empty, or as what its first member embeds, or with a first member that
embeds nothing. -/
theorem cases_of_readMembers (h : strip (readMembers true depth true [] s) = .ok (v, r)) :
    v = .object [] ∨ IsReadWithin true s.length v ∨
      ∃ first w, ∃ ms : Members, first.toList ≠ embeddedName ∧
        v = .object (collect ((first, w) :: ms)) ∧
        ∀ m ∈ (first, w) :: ms, IsReadWithin true s.length m.2 := by
  rcases ahead_of_readMembers h with ⟨t, hend⟩ | ⟨t, hahead⟩
  · rw [strip_readMembers_end hend] at h
    injection h with h
    injection h with hv
    exact .inl hv.symm
  · rw [strip_readMembers_member hahead] at h
    obtain ⟨first, u, hfirst⟩ := memberName_of_readMember h
    rw [strip_readMember hfirst] at h
    have hahead' := hahead.length_lt
    have hfirst' := memberName_length_lt hfirst
    split at h
    · obtain ⟨text, q, q', r', hq, htext, -, hread⟩ := exists_of_readEmbedded h
      have htail := stringTail_length htext
      have hq' := length_lt_of_skipSpace_eq_cons hq
      rw [List.length_nil] at htail
      exact .inr (.inl ⟨greatestDepth, text, r', by omega, hread⟩)
    · rename_i hcond
      have hne : (String.ofList first).toList ≠ embeddedName := by
        rw [String.toList_ofList]
        exact fun heq ↦ hcond ⟨rfl, rfl, heq⟩
      obtain ⟨⟨w, t'⟩, hvalue, hrest⟩ := exists_of_bind_eq_ok h
      dsimp only at hrest
      obtain ⟨hshort, -⟩ := strip_eq_ok.1 hvalue
      obtain ⟨ms, rfl, hread⟩ := exists_of_readMembers hrest
      refine .inr (.inr ⟨String.ofList first, w, ms, hne, rfl,
        List.forall_mem_cons.2 ⟨⟨depth, u, t', by omega, hvalue⟩, ?_⟩⟩)
      exact fun m hm ↦ (hread m hm).mono (by omega)

/-- What holds of scalars, of arrays of what it holds of, and of objects that collect members of
which it holds, the first not being one that embeds text, holds of every value that is read. -/
theorem readValue_induction {P : Json → Prop}
    (hscalar : ∀ v, (∀ xs, v ≠ .array xs) → (∀ ms, v ≠ .object ms) → P v)
    (harray : ∀ xs, (∀ x ∈ xs, P x) → P (.array xs)) (hempty : P (.object []))
    (hobject : ∀ first w (ms : Members), first.toList ≠ embeddedName →
      (∀ m ∈ (first, w) :: ms, P m.2) → P (.object (collect ((first, w) :: ms))))
    (h : strip (readValue true depth s) = .ok (v, r)) : P v := by
  -- what is inside a value, or embedded in its text, is read from a shorter text
  induction hn : s.length using Nat.strongRecOn generalizing s r depth v with
  | ind n ih =>
    have hwithin : ∀ {m v}, m < n → IsReadWithin true m v → P v := fun hlt hread ↦ by
      obtain ⟨depth, t, r', ht, hread⟩ := hread
      exact ih t.length (by omega) hread rfl
    cases hs : skipSpace s with
    | nil =>
      rw [strip_readValue_nil hs] at h
      cases h
    | cons c t =>
      have hshort : t.length < n := hn ▸ length_lt_of_skipSpace_eq_cons hs
      by_cases hcontainer : c = '[' ∨ c = '{'
      · cases depth with
        | zero =>
          rw [strip_readValue_zero hs hcontainer] at h
          cases h
        | succ depth =>
          rcases hcontainer with rfl | rfl
          · rw [strip_readValue_array hs] at h
            obtain ⟨⟨xs, t'⟩, helements, hp⟩ := exists_of_map_eq_ok h
            injection hp with hv
            subst hv
            obtain ⟨ys, rfl, hread⟩ := exists_of_readElements helements
            exact harray _ fun x hx ↦ hwithin hshort (hread x (by simpa using hx))
          · rw [strip_readValue_object hs] at h
            rcases cases_of_readMembers h with rfl | hread | ⟨first, w, ms, hne, rfl, hread⟩
            · exact hempty
            · exact hwithin hshort hread
            · exact hobject first w ms hne fun m hm ↦ hwithin hshort (hread m hm)
      · rw [not_or] at hcontainer
        rw [strip_readValue_scalar hs hcontainer.1 hcontainer.2] at h
        obtain ⟨hxs, hms⟩ := ne_container_of_readScalar h
        exact hscalar v hxs hms

/-- No object that is read has the reserved name alone. -/
theorem ne_embedded_of_readValue (h : strip (readValue true depth s) = .ok (v, r)) {name : String}
    (hname : name.toList = embeddedName) (w : Json) : v ≠ .object [(name, w)] := by
  refine readValue_induction (P := fun v ↦ v ≠ .object [(name, w)]) (fun v _ hms ↦ hms _)
    nofun nofun ?_ h
  intro first w' ms hne _ heq
  injection heq with heq
  have hmem : first ∈ [(name, w)].map Prod.fst := by
    rw [← heq, mem_collect]
    exact List.mem_cons_self
  obtain rfl := List.mem_singleton.1 hmem
  exact hne hname

end LspClient.Json
