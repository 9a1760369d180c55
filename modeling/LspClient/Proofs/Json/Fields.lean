import LspClient.Json.Record
import LspClient.Proofs.Json.Decoding
import LspClient.Proofs.Json.Taking
import Mathlib.Data.List.Nodup

/-!
# Fields of a record

What a field finds in an object depends on the members that spell it, up to their order. A record
that gives every field its value has no fault, so that it is decoded from an object exactly as it is
built from its members (`Record.Asks.ofMembers_eq_ok_iff`). An object that is written from the
values of fields, with other members beside them, gives each field its value again, sorted or not,
and the other members are those that are no fields (`IsWritten.exists_sorted`).
-/

namespace LspClient.Json

variable {α β : Type} {ms ms' : Members} {f g : Field}

namespace Field

/-! ### Spellings -/

/-- The names that a field may be given by. -/
def spellings (f : Field) : List String :=
  f.name :: f.altName.toList

/-- A name spells a field if it is one of its spellings. -/
theorem spells_iff {name : String} : f.spells name = true ↔ name ∈ f.spellings := by
  rw [spells, spellings, List.mem_cons, Option.mem_toList, Bool.or_eq_true, beq_iff_eq, beq_iff_eq]

theorem spells_name (f : Field) : f.spells f.name = true :=
  spells_iff.2 List.mem_cons_self

/-- No spelling of one field is one of the other. -/
def Apart (f g : Field) : Prop :=
  ∀ name ∈ f.spellings, g.spells name = false

instance (f g : Field) : Decidable (f.Apart g) :=
  inferInstanceAs (Decidable (∀ name ∈ f.spellings, g.spells name = false))

/-- A name that spells a field spells none that is apart from it. -/
theorem Apart.spells_eq_false (h : f.Apart g) {name : String} (hname : f.spells name = true) :
    g.spells name = false :=
  h name (spells_iff.1 hname)

theorem Apart.symm (h : f.Apart g) : g.Apart f := by
  intro name hname
  cases hf : f.spells name with
  | false => rfl
  | true => exact absurd (spells_iff.2 hname) (by simp [h.spells_eq_false hf])

/-- Of fields that are pairwise apart, two are the same or apart. -/
theorem eq_or_apart {γ : Type} {entries : List (Field × γ)}
    (h : (entries.map Prod.fst).Pairwise Apart) {e e' : Field × γ} (he : e ∈ entries)
    (he' : e' ∈ entries) : e = e' ∨ e.1.Apart e'.1 := by
  induction entries with
  | nil => cases he
  | cons first rest ih =>
    obtain ⟨hfirst, hrest⟩ := List.pairwise_cons.1 h
    have hapart : ∀ e ∈ rest, first.1.Apart e.1 := fun e he ↦
      hfirst e.1 (List.mem_map_of_mem he)
    rcases List.mem_cons.1 he with rfl | hrest_e
    · exact (List.mem_cons.1 he').imp Eq.symm (hapart e')
    · rcases List.mem_cons.1 he' with rfl | hrest_e'
      · exact .inr (hapart e hrest_e).symm
      · exact ih hrest hrest_e hrest_e'

/-! ### Values that members give -/

theorem occurrences_cons (f : Field) (m : String × Json) (ms : Members) :
    f.occurrences (m :: ms) =
      if f.spells m.1 then m.2 :: f.occurrences ms else f.occurrences ms := by
  rw [occurrences, List.filter_cons]
  split <;> rfl

/-- What two lists of members give a field, they give it together. -/
theorem occurrences_append (f : Field) (ms ms' : Members) :
    f.occurrences (ms ++ ms') = f.occurrences ms ++ f.occurrences ms' := by
  rw [occurrences, List.filter_append, List.map_append]
  rfl

/-- A field that no member spells is given nothing. -/
theorem occurrences_of_forall (h : ∀ m ∈ ms, f.spells m.1 = false) : f.occurrences ms = [] := by
  rw [occurrences, List.filter_eq_nil_iff.2 fun m hm ↦ by simp [h m hm]]
  rfl

/-- What is given to a field are the values of the members that spell it. -/
theorem mem_occurrences {v : Json} :
    v ∈ f.occurrences ms ↔ ∃ m ∈ ms, f.spells m.1 = true ∧ m.2 = v := by
  rw [occurrences, List.mem_map]
  simp only [List.mem_filter, and_assoc]

/-- A field that one member alone spells finds that member. -/
theorem occurrences_of_only {name : String} {v : Json} {front back : Members}
    (hname : f.spells name = true) (hothers : ∀ m ∈ front ++ back, f.spells m.1 = false) :
    f.occurrences (front ++ (name, v) :: back) = [v] := by
  have hnil : f.occurrences (front ++ back) = [] := occurrences_of_forall hothers
  rw [occurrences_append, List.append_eq_nil_iff] at hnil
  rw [occurrences_append, occurrences_cons, if_pos hname, hnil.1, hnil.2]
  rfl

/-- Where no name stands twice, a field with one spelling finds the member of its name. -/
theorem occurrences_of_mem {v : Json} (halt : f.altName = none) (hnodup : (ms.map Prod.fst).Nodup)
    (h : (f.name, v) ∈ ms) : f.occurrences ms = [v] := by
  obtain ⟨front, back, rfl⟩ := List.append_of_mem h
  have hperm : ((front ++ (f.name, v) :: back).map Prod.fst).Perm
      (f.name :: (front ++ back).map Prod.fst) :=
    List.perm_middle.map Prod.fst
  obtain ⟨hnot, -⟩ := List.nodup_cons.1 (hperm.nodup_iff.1 hnodup)
  refine occurrences_of_only f.spells_name fun m hm ↦ Bool.eq_false_iff.2 fun hname ↦ hnot ?_
  have hsame : m.1 = f.name := by simpa [spellings, halt] using spells_iff.1 hname
  exact hsame ▸ List.mem_map_of_mem hm

/-- In another order the members give a field the same values. -/
theorem occurrences_perm (f : Field) (h : ms.Perm ms') :
    (f.occurrences ms).Perm (f.occurrences ms') :=
  (h.filter _).map _

/-- A value changed at every member is changed at the field's. -/
theorem occurrences_map (f : Field) (h : Json → Json) (ms : Members) :
    f.occurrences (ms.map fun m ↦ (m.1, h m.2)) = (f.occurrences ms).map h := by
  induction ms with
  | nil => rfl
  | cons m ms ih =>
    rw [List.map_cons, occurrences_cons, occurrences_cons, ih]
    split <;> rfl

end Field

/-! ### Outcomes -/

theorem toOption_eq_some_iff {ε : Type} {x : Except ε α} {a : α} :
    x.toOption = some a ↔ x = .ok a := by
  cases x <;> simp [Except.toOption]

/-- What succeeds alike is the same but for why it fails. -/
theorem toOption_congr {ε : Type} {x y : Except ε α} (h : ∀ a, x = .ok a ↔ y = .ok a) :
    x.toOption = y.toOption := by
  cases x with
  | ok a => rw [(h a).1 rfl]
  | error e =>
    cases y with
    | ok b => cases (h b).2 rfl
    | error e' => rfl

theorem map_some_eq_ok_iff {ε : Type} {x : Except ε α} {a : α} :
    x.map some = .ok (some a) ↔ x = .ok a := by
  cases x <;> simp [Except.map]

/-! ### The value of a field -/

/-- Where no name stands twice, one member at most has a name. -/
theorem exists_forall_mem_iff (hnodup : (ms.map Prod.fst).Nodup) (name : String) :
    ∃ o : Option Json, ∀ v, v ∈ o ↔ (name, v) ∈ ms := by
  by_cases hmem : ∃ v, (name, v) ∈ ms
  · obtain ⟨v, hv⟩ := hmem
    refine ⟨some v, fun w ↦ ⟨fun hw ↦ Option.mem_some_iff.1 hw ▸ hv, fun hw ↦ ?_⟩⟩
    have hsame := List.inj_on_of_nodup_map hnodup hv hw rfl
    exact congrArg some (congrArg Prod.snd hsame)
  · exact ⟨none, fun w ↦ iff_of_false nofun fun hw ↦ hmem ⟨w, hw⟩⟩

section field

variable {decode : Decoder α} {place : Nat} {o : Option α}

/-- A field that no member spells is given nothing, and that is no fault. -/
theorem field_of_occurrences_nil (h : f.occurrences ms = []) (place : Nat) (decode : Decoder α) :
    (Source.members ms).field place f decode = .ok none := by
  rw [Source.field, h]

/-- A field that one member spells is given what its value is decoded as. -/
theorem field_of_occurrences_singleton {v : Json} (h : f.occurrences ms = [v]) (place : Nat)
    (decode : Decoder α) :
    (Source.members ms).field place f decode = (decode v).map some := by
  rw [Source.field, h]

/-- A field is given nothing, or what the value of the one member that spells it is decoded as. -/
theorem field_members_eq_ok_iff :
    (Source.members ms).field place f decode = .ok o ↔
      f.occurrences ms = [] ∧ o = none ∨
        ∃ v a, f.occurrences ms = [v] ∧ decode v = .ok a ∧ o = some a := by
  rcases hoccurrences : f.occurrences ms with _ | ⟨v, _ | ⟨w, vs⟩⟩
  · rw [field_of_occurrences_nil hoccurrences]
    simp [eq_comm]
  · rw [field_of_occurrences_singleton hoccurrences, map_eq_ok_iff]
    simp [eq_comm]
  · rw [Source.field, hoccurrences]
    simp

/-- The values in a source. -/
def Source.values : Source → List Json
  | .members ms => ms.map Prod.snd
  | .elements xs => xs

/-- The value that a field is given is decoded from one in the source. -/
theorem Source.exists_of_field {source : Source} {a : α}
    (h : source.field place f decode = .ok (some a)) :
    ∃ v ∈ source.values, decode v = .ok a := by
  cases source with
  | members ms =>
    rcases field_members_eq_ok_iff.1 h with ⟨-, hnone⟩ | ⟨v, b, hoccurrences, hv, hb⟩
    · cases hnone
    · cases hb
      have hmem : v ∈ f.occurrences ms := hoccurrences ▸ List.mem_singleton_self v
      obtain ⟨m, hm, -, rfl⟩ := Field.mem_occurrences.1 hmem
      exact ⟨m.2, List.mem_map_of_mem hm, hv⟩
  | elements xs =>
    rw [Source.field] at h
    split at h
    · cases h
    · rename_i v hv
      obtain ⟨b, hb, hsome⟩ := exists_of_map_eq_ok h
      cases hsome
      exact ⟨v, List.mem_of_getElem? hv, hb⟩

/-- A field that must not be missing and is given something is given it like any other. -/
theorem Source.field_of_required {source : Source} {whole : String} {a : α}
    (h : source.required place f decode whole = .ok a) :
    source.field place f decode = .ok (some a) := by
  rw [Source.required.eq_def] at h
  split at h
  · cases h
  · rename_i b hfield
    injection h with h
    rw [hfield, h]
  · cases source <;> cases h

/-- A source gives a field this value, or none. -/
def Source.Gives (source : Source) (place : Nat) (f : Field) (given : Option Json) : Prop :=
  ∀ {α : Type} (decode : Decoder α),
    source.field place f decode = given.elim (.ok none) fun v ↦ (decode v).map some

/-- A field has a value if it is given one that is decoded as that. -/
theorem Source.Gives.eq_ok_some_iff {source : Source} {given : Option Json}
    (h : source.Gives place f given) {a : α} :
    source.field place f decode = .ok (some a) ↔ ∃ v ∈ given, decode v = .ok a := by
  rw [h]
  cases given with
  | none => simp
  | some v => simp [map_some_eq_ok_iff]

/-- Among members, each of another name, a field with one spelling is given the member of its
name. -/
theorem Source.gives_members {given : Option Json} (halt : f.altName = none)
    (hnodup : (ms.map Prod.fst).Nodup) (hgiven : ∀ v, v ∈ given ↔ (f.name, v) ∈ ms) :
    (members ms).Gives place f given := by
  intro α decode
  cases given with
  | none =>
    refine field_of_occurrences_nil (Field.occurrences_of_forall fun m hm ↦ ?_) place decode
    refine Bool.eq_false_iff.2 fun hname ↦ ?_
    have hsame : m.1 = f.name := by simpa [Field.spellings, halt] using Field.spells_iff.1 hname
    exact absurd ((hgiven m.2).2 (hsame ▸ hm)) (Option.not_mem_none _)
  | some v =>
    exact field_of_occurrences_singleton
      (Field.occurrences_of_mem halt hnodup ((hgiven v).1 rfl)) place decode

/-- Among elements a field is given the one in its place. -/
theorem Source.gives_elements (xs : List Json) (place : Nat) (f : Field) :
    (elements xs).Gives place f xs[place]? := by
  intro α decode
  rw [field]
  cases xs[place]? <;> rfl

/-- A check lets pass what is decoded. -/
theorem toOption_check (decode : Decoder α) (v : Json) :
    (check decode v).toOption = (decode v).toOption.map fun _ ↦ () :=
  toOption_map _ _

/-- A field that has its value is one whose value is as it should be. -/
theorem exists_field_check (h : (Source.members ms).field place f decode = .ok o) :
    ∃ u, (Source.members ms).field 0 f (check decode) = .ok u := by
  rcases field_members_eq_ok_iff.1 h with ⟨hnil, -⟩ | ⟨v, a, hoccurrences, hv, -⟩
  · exact ⟨none, field_of_occurrences_nil hnil 0 _⟩
  · refine ⟨some (), ?_⟩
    rw [field_of_occurrences_singleton hoccurrences, check, hv]
    rfl

end field

/-! ### Faults -/

/-- There is no fault if each field has a value as it should be, or none, and those met so far have
none. -/
theorem firstFault_eq_ok {layout : List (Field × Decoder Unit)} {seen : List Field}
    (hseen : ∀ f ∈ seen, f.occurrences ms = [])
    (h : ∀ e ∈ layout, ∃ u, (Source.members ms).field 0 e.1 e.2 = .ok u) :
    firstFault layout seen ms = .ok () := by
  induction ms generalizing seen with
  | nil => rfl
  | cons m ms ih =>
    obtain ⟨name, v⟩ := m
    -- a field that has one value at most has no more than that behind the first member
    have hrest : ∀ e ∈ layout, ∃ u, (Source.members ms).field 0 e.1 e.2 = .ok u := by
      intro e he
      obtain ⟨u, hu⟩ := h e he
      rcases field_members_eq_ok_iff.1 hu with ⟨hnil, -⟩ | ⟨w, a, hone, hw, -⟩
      · rw [Field.occurrences_cons] at hnil
        split at hnil
        · cases hnil
        · exact ⟨none, field_of_occurrences_nil hnil 0 _⟩
      · rw [Field.occurrences_cons] at hone
        split at hone
        · exact ⟨none, field_of_occurrences_nil (List.cons.inj hone).2 0 _⟩
        · refine ⟨some a, ?_⟩
          rw [field_of_occurrences_singleton hone, hw]
          rfl
    have hseen' : ∀ f ∈ seen, f.spells name = false ∧ f.occurrences ms = [] := by
      intro f hf
      have hnil := hseen f hf
      rw [Field.occurrences_cons] at hnil
      split at hnil
      · cases hnil
      · rename_i hspells
        exact ⟨Bool.eq_false_iff.2 hspells, hnil⟩
    rw [firstFault]
    split
    · exact ih (fun f hf ↦ (hseen' f hf).2) hrest
    · rename_i f checkValue hfind
      have hspells : f.spells name = true := by simpa using List.find?_some hfind
      obtain ⟨u, hu⟩ := h _ (List.mem_of_find?_eq_some hfind)
      have hfirst := Field.occurrences_cons f (name, v) ms
      rw [if_pos hspells] at hfirst
      rcases field_members_eq_ok_iff.1 hu with ⟨hnil, -⟩ | ⟨w, a, hone, hw, -⟩
      · rw [hfirst] at hnil
        cases hnil
      · rw [hfirst] at hone
        obtain ⟨rfl, hnil⟩ := List.cons.inj hone
        have hnew : f ∉ seen := fun hmem ↦ by simp [(hseen' f hmem).1] at hspells
        have hvalue : checkValue v = .ok () := hw
        rw [if_neg hnew, hvalue]
        exact ih (List.forall_mem_cons.2 ⟨hnil, fun f hf ↦ (hseen' f hf).2⟩) hrest

/-! ### Records -/

namespace Record

variable {record : Record α} {a : α} {v : Json}

/-- A record that is built from members has asked for every field that it has. -/
def Asks (record : Record α) : Prop :=
  ∀ ms a, record.build (.members ms) = .ok a →
    ∀ e ∈ record.layout, ∃ u, (Source.members ms).field 0 e.1 e.2 = .ok u

/-- A record that asks for every field is decoded from members exactly if it is built from them. -/
theorem Asks.ofMembers_eq_ok_iff (h : record.Asks) :
    record.ofMembers ms = .ok a ↔ record.build (.members ms) = .ok a := by
  rw [ofMembers]
  constructor
  · intro hdecode
    split at hdecode
    · cases hdecode
    · exact hdecode
  · intro hbuild
    rw [firstFault_eq_ok (List.forall_mem_nil _) (h ms a hbuild)]
    exact hbuild

theorem Asks.toOption_ofMembers (h : record.Asks) (ms : Members) :
    (record.ofMembers ms).toOption = (record.build (.members ms)).toOption :=
  toOption_congr fun _ ↦ h.ofMembers_eq_ok_iff

/-- A record is decoded from an array of no more elements than it has fields. -/
theorem ofElements_eq_ok_iff {xs : List Json} : record.ofElements xs = .ok a ↔
    record.build (.elements xs) = .ok a ∧ xs.length ≤ record.layout.length := by
  rw [ofElements]
  cases record.build (.elements xs) with
  | error e => simp
  | ok b => by_cases hlength : xs.length ≤ record.layout.length <;> simp [hlength]

/-- A record is built from what stands in the value that it is decoded from. -/
theorem exists_of_decode (h : record.decode v = .ok a) :
    ∃ source, record.build source = .ok a ∧
      ∀ p : Json → Prop, v.All p → ∀ w ∈ source.values, w.All p := by
  cases v with
  | object ms =>
    rw [decode, ofMembers] at h
    split at h
    · cases h
    · refine ⟨.members ms, h, fun p hp w hw ↦ ?_⟩
      obtain ⟨m, hm, rfl⟩ := List.mem_map.1 hw
      exact (all_object.1 hp).2 m hm
  | array xs =>
    rw [decode, ofElements] at h
    split at h
    · cases h
    · rename_i b hb
      split at h
      · injection h with h
        exact ⟨.elements xs, h ▸ hb, fun p hp ↦ (all_array.1 hp).2⟩
      · cases h
  | null | bool | number | string => cases h

/-- A record and the members beside it are those of an object. -/
theorem exists_of_decodeOpen {others : Members} (h : record.decodeOpen v = .ok (a, others)) :
    ∃ ms, v = .object ms ∧ record.build (.members ms) = .ok a ∧
      decodeMembers aloneInPart (record.others ms) = .ok others := by
  cases v with
  | object ms =>
    rw [decodeOpen, ofMembers] at h
    split at h
    · cases h
    · rename_i b hb
      obtain ⟨others', hothers, hpair⟩ := exists_of_map_eq_ok h
      cases hpair
      split at hb
      · cases hb
      · exact ⟨ms, rfl, hb, hothers⟩
  | null | bool | number | string | array => cases h

/-- An open record is decoded as what is built from its members and, apart from that, as the others.
-/
theorem Asks.decodeOpen_object_eq_ok_iff (h : record.Asks) {others : Members} :
    record.decodeOpen (.object ms) = .ok (a, others) ↔
      record.build (.members ms) = .ok a ∧
        decodeMembers aloneInPart (record.others ms) = .ok others := by
  rw [← h.ofMembers_eq_ok_iff, decodeOpen]
  cases record.ofMembers ms with
  | error e => simp
  | ok b =>
    cases decodeMembers aloneInPart (record.others ms) with
    | error e => simp [Except.map]
    | ok others' => simp [Except.map]

end Record

/-! ### Objects that are written -/

/-- The members of an object that gives fields their values, where they have one, with other members
behind them. -/
def written (entries : List (Field × Option Json)) (others : Members) : Members :=
  entries.filterMap (fun e ↦ e.2.map (e.1.name, ·)) ++ others

/-- The fields that an object is written from are pairwise apart, and the members beside them are
canonical and spell none of them. -/
structure IsWritten (entries : List (Field × Option Json)) (others : Members) : Prop where
  apart : (entries.map Prod.fst).Pairwise Field.Apart
  canonical : IsCanonical (.object others)
  unspelled : ∀ m ∈ others, ∀ e ∈ entries, e.1.spells m.1 = false

variable {entries : List (Field × Option Json)} {others : Members}

theorem written_cons (f : Field) (v : Option Json) (entries : List (Field × Option Json))
    (others : Members) :
    written ((f, v) :: entries) others = (v.map (f.name, ·)).toList ++ written entries others := by
  cases v with
  | none => rfl
  | some v => rfl

/-- What is written are the values that there are, under the names of their fields, and the others.
-/
theorem mem_written {m : String × Json} :
    m ∈ written entries others ↔
      (∃ e ∈ entries, ∃ v, e.2 = some v ∧ m = (e.1.name, v)) ∨ m ∈ others := by
  rw [written, List.mem_append, List.mem_filterMap]
  simp only [Option.map_eq_some_iff, eq_comm (a := m)]

theorem written_nil (others : Members) : written [] others = others := rfl

theorem written_append (entries : List (Field × Option Json)) (others : Members) :
    written entries [] ++ others = written entries others := by
  rw [written, written, List.append_nil]

/-- What is written without the first entry can be written. -/
theorem IsWritten.tail {e : Field × Option Json} (h : IsWritten (e :: entries) others) :
    IsWritten entries others :=
  ⟨(List.pairwise_cons.1 h.apart).2, h.canonical,
    fun m hm e' he' ↦ h.unspelled m hm e' (List.mem_cons_of_mem e he')⟩

/-- A field finds nothing but its own value. -/
theorem IsWritten.occurrences (h : IsWritten entries others) {v : Option Json}
    (hmem : (f, v) ∈ entries) : f.occurrences (written entries others) = v.toList := by
  have hothers : f.occurrences others = [] :=
    Field.occurrences_of_forall fun m hm ↦ h.unspelled m hm _ hmem
  have hapart : ∀ entries : List (Field × Option Json), (∀ e ∈ entries, Field.Apart e.1 f) →
      f.occurrences (written entries []) = [] := by
    refine fun entries hentries ↦ Field.occurrences_of_forall fun m hm ↦ ?_
    rcases mem_written.1 hm with ⟨e, he, v, -, rfl⟩ | hm
    · exact (hentries e he).spells_eq_false e.1.spells_name
    · cases hm
  have hfront : f.occurrences (written entries []) = v.toList := by
    clear hothers
    replace h := h.apart
    induction entries with
    | nil => cases hmem
    | cons e entries ih =>
      obtain ⟨hfirst, hrest⟩ := List.pairwise_cons.1 h
      have hfirst' : ∀ e' ∈ entries, e.1.Apart e'.1 := fun e' he' ↦
        hfirst e'.1 (List.mem_map_of_mem he')
      obtain ⟨g, w⟩ := e
      rw [written_cons, Field.occurrences_append]
      rcases List.mem_cons.1 hmem with heq | hmem
      · cases heq
        rw [hapart entries fun e' he' ↦ (hfirst' e' he').symm, List.append_nil]
        cases v with
        | none => rfl
        | some v =>
          exact (Field.occurrences_cons f _ []).trans (if_pos f.spells_name)
      · rw [ih hmem hrest]
        have hnone : f.occurrences (w.map (g.name, ·)).toList = [] := by
          refine Field.occurrences_of_forall fun m hm ↦ ?_
          obtain ⟨u, -, rfl⟩ := Option.map_eq_some_iff.1 (Option.mem_toList.1 hm)
          exact (hfirst' _ hmem).spells_eq_false g.spells_name
        rw [hnone, List.nil_append]
  rw [← written_append, Field.occurrences_append, hfront, hothers, List.append_nil]

/-- No name stands twice. -/
theorem IsWritten.nodup (h : IsWritten entries others) :
    ((written entries others).map Prod.fst).Nodup := by
  induction entries with
  | nil => exact nodup_of_pairwise_lt (isCanonical_object.1 h.canonical).1
  | cons e entries ih =>
    obtain ⟨g, _ | w⟩ := e
    · exact ih h.tail
    · rw [written_cons]
      refine List.nodup_cons.2 ⟨fun hmem ↦ ?_, ih h.tail⟩
      obtain ⟨m, hm, hname⟩ := List.mem_map.1 hmem
      have hspells : g.spells m.1 = true := hname ▸ g.spells_name
      rcases mem_written.1 hm with ⟨e, he, v, -, rfl⟩ | hm
      · have hapart := (List.pairwise_cons.1 h.apart).1 e.1 (List.mem_map_of_mem he)
        have hnot := hapart.symm.spells_eq_false e.1.spells_name
        rw [hnot] at hspells
        cases hspells
      · rw [h.unspelled m hm _ List.mem_cons_self] at hspells
        cases hspells

/-- **What is written is found again.** Sorted, the object gives each field its value, sorted, and
the members that are no fields are the others. -/
theorem IsWritten.exists_sorted (h : IsWritten entries others) :
    ∃ ms, (Json.object (written entries others)).sorted = .object ms ∧
      (∀ e ∈ entries, e.1.occurrences ms = (e.2.map sorted).toList) ∧
      ms.filter (fun m ↦ !entries.any fun e ↦ e.1.spells m.1) = others := by
  obtain ⟨hascending, hothers⟩ := isCanonical_object.1 h.canonical
  let unsorted := (written entries others).map fun m ↦ (m.1, m.2.sorted)
  have hnames : unsorted.map Prod.fst = (written entries others).map Prod.fst :=
    List.map_map
  have hperm : (collect unsorted).Perm unsorted := collect_perm (hnames ▸ h.nodup)
  refine ⟨collect unsorted, sorted_object _, ?_, ?_⟩
  · rintro ⟨f, v⟩ he
    have hoccurrences : f.occurrences unsorted = (v.map sorted).toList := by
      rw [Field.occurrences_map, h.occurrences he]
      cases v <;> rfl
    have hfound := Field.occurrences_perm f hperm
    rw [hoccurrences] at hfound
    cases v with
    | none => exact hfound.eq_nil
    | some v => exact List.perm_singleton.1 hfound
  · let isOther : String × Json → Bool := fun m ↦ !entries.any fun e ↦ e.1.spells m.1
    have hsame : others.map (fun m ↦ (m.1, m.2.sorted)) = others := by
      refine (List.map_congr_left fun m hm ↦ ?_).trans (List.map_id' others)
      rw [(hothers m hm).sorted_eq]
    have hfields : ((written entries []).map fun m ↦ (m.1, m.2.sorted)).filter isOther = [] := by
      refine List.filter_eq_nil_iff.2 fun m hm ↦ ?_
      obtain ⟨m', hm', rfl⟩ := List.mem_map.1 hm
      rcases mem_written.1 hm' with ⟨e, he, v, -, rfl⟩ | hm'
      · have hspelled : (entries.any fun e' ↦ e'.1.spells e.1.name) = true :=
          List.any_eq_true.2 ⟨e, he, e.1.spells_name⟩
        simp [isOther, hspelled]
      · cases hm'
    have hkept : others.filter isOther = others := by
      refine List.filter_eq_self.2 fun m hm ↦ ?_
      simpa [isOther] using h.unspelled m hm
    have hfilter : unsorted.filter isOther = others := by
      show ((written entries others).map fun m ↦ (m.1, m.2.sorted)).filter isOther = others
      rw [← written_append, List.map_append, List.filter_append, hfields, hsame, hkept,
        List.nil_append]
    have hothers' : ((collect unsorted).filter isOther).Perm others :=
      hfilter ▸ hperm.filter isOther
    refine eq_of_perm hothers' ?_ hascending
    exact (pairwise_collect unsorted).sublist (List.filter_sublist.map Prod.fst)

end LspClient.Json
