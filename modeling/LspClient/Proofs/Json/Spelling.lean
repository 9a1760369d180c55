import LspClient.Proofs.Json.Fields
import Mathlib.Data.List.Forall2

/-!
# Spellings of members

The members of a value that a decoder models are told by its shape. A member may be given in
camelCase or with a capital first letter, and two values that differ in nothing but that, here and
in the values of modelled members, say the same to a decoder that has the shape (`Respects`). An
object that gives a member in both ways is refused. A record has a shape if its fields' decoders do
(`Record.Fields.respects_decode`, `Record.Fields.respects_decodeOpen`).
-/

namespace LspClient.Json

/-! ### Names with a capital first letter -/

/-- A name with a capital first letter. -/
def capitalised (name : String) : String :=
  match name.toList with
  | [] => ""
  | c :: cs => String.ofList (c.toUpper :: cs)

/-- A name is that of a field, or that with a capital first letter. -/
def Field.IsSpelling (f : Field) (name : String) : Prop :=
  name = f.name ∨ name = capitalised f.name

/-! ### Shapes -/

/-- Which members of a value are modelled: none, or those for the fields of an object. -/
inductive Shape where
  | free
  | object (fields : List (Field × Shape))

namespace Shape

mutual

/-- Two values differ at most in how modelled members are spelled, and in the order of members. -/
def Respells : Shape → Json → Json → Prop
  | free, v, v' => v = v'
  | object fields, v, v' => v = v' ∨ ∃ ms ms' respelled, v = .object ms ∧ v' = .object ms' ∧
      List.Forall₂ (RespellsMember fields) ms respelled ∧ respelled.Perm ms'

/-- Two members are the same, or give the same field values that differ at most so. -/
def RespellsMember : List (Field × Shape) → String × Json → String × Json → Prop
  | [], m, m' => m = m'
  | (f, shape) :: fields, m, m' =>
    (f.IsSpelling m.1 ∧ f.IsSpelling m'.1 ∧ Respells shape m.2 m'.2) ∨ RespellsMember fields m m'

end

mutual

/-- A modelled object, the value itself or one inside it, holds both spellings of a member. -/
def HoldsBoth : Shape → Json → Prop
  | free, _ => False
  | object fields, v => ∃ ms, v = .object ms ∧ HoldsBothAmong fields ms

/-- The members spell a field both ways, or the value of a modelled member holds both spellings of
one. -/
def HoldsBothAmong : List (Field × Shape) → Members → Prop
  | [], _ => False
  | (f, shape) :: fields, ms =>
    (f.name ∈ ms.map Prod.fst ∧ capitalised f.name ∈ ms.map Prod.fst) ∨
      (∃ m ∈ ms, f.IsSpelling m.1 ∧ HoldsBoth shape m.2) ∨ HoldsBothAmong fields ms

end

mutual

/-- Every modelled member is spelled in camelCase. -/
def IsCamelCase : Shape → Json → Prop
  | free, _ => True
  | object fields, v => ∀ ms, v = .object ms → ∀ m ∈ ms, IsCamelCaseMember fields m

/-- A member that is modelled is spelled in camelCase, and so are those in its value. -/
def IsCamelCaseMember : List (Field × Shape) → String × Json → Prop
  | [], _ => True
  | (f, shape) :: fields, m =>
    (f.IsSpelling m.1 → m.1 = f.name ∧ IsCamelCase shape m.2) ∧ IsCamelCaseMember fields m

end

variable {shape : Shape} {fields : List (Field × Shape)} {v v' : Json} {m m' : String × Json}
  {ms ms' : Members}

/-- An object spells another otherwise, if its members do in some order. -/
theorem respells_object : (object fields).Respells v v' ↔ v = v' ∨ ∃ ms ms' respelled,
    v = .object ms ∧ v' = .object ms' ∧
      List.Forall₂ (RespellsMember fields) ms respelled ∧ respelled.Perm ms' := by
  rw [Respells]

/-- A member spells another otherwise, if both spell the same field and so do their values. -/
theorem respellsMember_iff : RespellsMember fields m m' ↔ m = m' ∨ ∃ e ∈ fields,
    e.1.IsSpelling m.1 ∧ e.1.IsSpelling m'.1 ∧ e.2.Respells m.2 m'.2 := by
  induction fields with
  | nil => simp [RespellsMember]
  | cons e fields ih =>
    rw [RespellsMember, ih, List.exists_mem_cons_iff]
    tauto

/-- Members hold a field in both spellings, or the value of one of them does. -/
theorem holdsBothAmong_iff : HoldsBothAmong fields ms ↔ ∃ e ∈ fields,
    (e.1.name ∈ ms.map Prod.fst ∧ capitalised e.1.name ∈ ms.map Prod.fst) ∨
      ∃ m ∈ ms, e.1.IsSpelling m.1 ∧ e.2.HoldsBoth m.2 := by
  induction fields with
  | nil => simp [HoldsBothAmong]
  | cons e fields ih => rw [HoldsBothAmong, ih, List.exists_mem_cons_iff, or_assoc]

/-- A member is in camelCase, if it spells its field so and its value is. -/
theorem isCamelCaseMember_iff : IsCamelCaseMember fields m ↔ ∀ e ∈ fields,
    e.1.IsSpelling m.1 → m.1 = e.1.name ∧ e.2.IsCamelCase m.2 := by
  induction fields with
  | nil => simp [IsCamelCaseMember]
  | cons e fields ih => rw [IsCamelCaseMember, ih, List.forall_mem_cons]

/-- A value is respelled as itself. -/
theorem Respells.refl (shape : Shape) (v : Json) : shape.Respells v v := by
  cases shape with
  | free => rw [Respells]
  | object fields => exact respells_object.2 (.inl rfl)

/-- Only objects are spelled otherwise. -/
theorem Respells.cases (h : shape.Respells v v') :
    v = v' ∨ ∃ ms ms', v = .object ms ∧ v' = .object ms' := by
  cases shape with
  | free => exact .inl (by rwa [Respells] at h)
  | object fields =>
    exact (respells_object.1 h).imp_right fun ⟨ms, ms', _, hv, hv', _⟩ ↦ ⟨ms, ms', hv, hv'⟩

/-- Only objects hold both spellings of a field. -/
theorem HoldsBoth.exists_object (h : shape.HoldsBoth v) : ∃ ms, v = .object ms := by
  cases shape with
  | free => rw [HoldsBoth] at h; exact h.elim
  | object fields =>
    rw [HoldsBoth] at h
    exact h.imp fun _ h ↦ h.1

end Shape

/-! ### Decoders that have a shape -/

variable {α β : Type} {decode : Decoder α} {shape : Shape} {v : Json}

/-- A decoder models the members that a shape tells: it makes the same of values that differ in
spelling, and refuses a value that holds both spellings of a member. -/
structure Respects (decode : Decoder α) (shape : Shape) : Prop where
  /-- Values that differ in spelling are decoded alike. -/
  respells : ∀ v v', v.IsCanonical → v'.IsCanonical → shape.Respells v v' →
    (decode v).toOption = (decode v').toOption
  /-- A value that holds both spellings of a member is refused. -/
  holdsBoth : ∀ v, shape.HoldsBoth v → (decode v).toOption = none

/-- Where nothing is modelled there is nothing to spell. -/
theorem respects_free (decode : Decoder α) : Respects decode .free where
  respells v v' _ _ h := by
    rw [Shape.Respells] at h
    rw [h]
  holdsBoth v h := by
    rw [Shape.HoldsBoth] at h
    exact h.elim

/-- A decoder that refuses objects has nothing to do with members. -/
theorem respects_of_object (h : ∀ ms, (decode (.object ms)).toOption = none) (shape : Shape) :
    Respects decode shape where
  respells v v' _ _ hv := by
    rcases hv.cases with rfl | ⟨ms, ms', rfl, rfl⟩
    · rfl
    · rw [h, h]
  holdsBoth v hv := by
    obtain ⟨ms, rfl⟩ := hv.exists_object
    exact h ms

/-- Spellings make no difference to what is decoded in the same cases. -/
theorem Respects.of_toOption_eq {decode' : Decoder β} (h : Respects decode shape) (f : α → β)
    (heq : ∀ v, (decode' v).toOption = (decode v).toOption.map f) : Respects decode' shape where
  respells v v' hv hv' hr := by rw [heq, heq, h.respells v v' hv hv' hr]
  holdsBoth v hv := by rw [heq, h.holdsBoth v hv]; rfl

theorem Respects.map (h : Respects decode shape) (f : α → β) :
    Respects (fun v ↦ (decode v).map f) shape :=
  h.of_toOption_eq f fun _ ↦ toOption_map _ f

theorem Respects.check (h : Respects decode shape) : Respects (check decode) shape :=
  h.of_toOption_eq _ (toOption_check decode)

/-- Any value but null is decoded as one that is there. -/
theorem decodeOption_of_ne (decode : Decoder α) (h : v ≠ .null) :
    decodeOption decode v = (decode v).map some := by
  cases v with
  | null => exact absurd rfl h
  | bool | number | string | array | object => rfl

theorem decodeOption_object (decode : Decoder α) (ms : Members) :
    decodeOption decode (.object ms) = (decode (.object ms)).map some :=
  decodeOption_of_ne decode nofun

/-- Spellings make no more difference where null is allowed. -/
theorem Respects.decodeOption (h : Respects decode shape) :
    Respects (decodeOption decode) shape where
  respells v v' hv hv' hr := by
    rcases hr.cases with rfl | ⟨ms, ms', rfl, rfl⟩
    · rfl
    · rw [decodeOption_object, decodeOption_object, toOption_map, toOption_map,
        h.respells _ _ hv hv' hr]
  holdsBoth v hv := by
    obtain ⟨ms, rfl⟩ := hv.exists_object
    rw [decodeOption_object, toOption_map, h.holdsBoth _ hv]
    rfl

theorem Respects.orDefault (h : Respects decode shape) (default : α) :
    Respects (orDefault default decode) shape :=
  h.decodeOption.map _

/-- Of two alternatives the first that is decoded counts. -/
theorem toOption_decodeEither (type : String) (first second : Decoder α) (v : Json) :
    (decodeEither type first second v).toOption =
      (first v).toOption.or (second v).toOption := by
  rw [decodeEither]
  cases first v with
  | ok a => rfl
  | error e => cases second v <;> rfl

/-- Spellings make no difference to alternatives, if they make none to either. -/
theorem Respects.decodeEither {first second : Decoder α} (hfirst : Respects first shape)
    (hsecond : Respects second shape) (type : String) :
    Respects (decodeEither type first second) shape where
  respells v v' hv hv' hr := by
    rw [toOption_decodeEither, toOption_decodeEither, hfirst.respells v v' hv hv' hr,
      hsecond.respells v v' hv hv' hr]
  holdsBoth v hv := by
    rw [toOption_decodeEither, hfirst.holdsBoth v hv, hsecond.holdsBoth v hv]
    rfl

/-! ### Fields -/

/-- A field that is also spelled with a capital first letter. -/
def Field.capital (f : Field) : Field :=
  ⟨f.name, some (capitalised f.name)⟩

/-- A field that is also spelled with a capital letter is spelled by its name and that. -/
theorem Field.spells_capital {f : Field} {name : String} :
    f.capital.spells name = true ↔ f.IsSpelling name := by
  rw [spells_iff, spellings, capital, IsSpelling]
  simp

/-- A literal is capitalised as its characters are, without being taken apart. -/
theorem Field.capital_ofList (c : Char) (cs : List Char) (alt : Option String) :
    capital ⟨.ofList (c :: cs), alt⟩ = ⟨.ofList (c :: cs), some (.ofList (c.toUpper :: cs))⟩ := by
  rw [capital, capitalised, String.toList_ofList]

/-- Members give a field in both spellings. -/
def Field.IsTwice (f : Field) (ms : Members) : Prop :=
  f.name ∈ ms.map Prod.fst ∧ capitalised f.name ∈ ms.map Prod.fst

/-- Where no name stands twice, and a field not in both spellings, one member at most spells it. -/
theorem Field.not_isSpelling_of_nodup {f : Field} {name : String} {front back : Members}
    (hnodup : ((front ++ (name, v) :: back).map Prod.fst).Nodup)
    (htwice : ¬f.IsTwice (front ++ (name, v) :: back)) (hname : f.IsSpelling name) :
    ∀ other ∈ (front ++ back).map Prod.fst, ¬f.IsSpelling other := by
  intro other hother hspelling
  have hperm : ((front ++ (name, v) :: back).map Prod.fst).Perm
      (name :: (front ++ back).map Prod.fst) :=
    List.perm_middle.map Prod.fst
  have hne : other ≠ name := by
    rintro rfl
    exact (List.nodup_cons.1 (hperm.nodup_iff.1 hnodup)).1 hother
  have hfirst := hperm.mem_iff.2 List.mem_cons_self
  have hsecond := hperm.mem_iff.2 (List.mem_cons_of_mem name hother)
  rcases hname with rfl | rfl
  · rcases hspelling with rfl | rfl
    · exact hne rfl
    · exact htwice ⟨hfirst, hsecond⟩
  · rcases hspelling with rfl | rfl
    · exact htwice ⟨hsecond, hfirst⟩
    · exact hne rfl

/-- The fields of an object are told apart by their names, and their second names are the first ones
with a capital first letter. -/
structure AreCapitalised (fields : List (Field × Shape)) : Prop where
  nodup : (fields.flatMap fun e ↦ e.1.spellings).Nodup
  capital : fields.Forall fun e ↦ e.1.capital = e.1

variable {fields : List (Field × Shape)} {ms ms' : Members} {f : Field} {place : Nat}

theorem AreCapitalised.capital_eq (h : AreCapitalised fields) {e : Field × Shape}
    (he : e ∈ fields) : e.1.capital = e.1 :=
  List.forall_iff_forall_mem.1 h.capital e he

/-- Where fields are capitalised, a name spells one if it is its name, or that with a capital
letter. -/
theorem AreCapitalised.spells_iff (h : AreCapitalised fields) {e : Field × Shape} (he : e ∈ fields)
    {name : String} : e.1.spells name = true ↔ e.1.IsSpelling name := by
  rw [← Field.spells_capital, h.capital_eq he]

theorem AreCapitalised.ne (h : AreCapitalised fields) {e : Field × Shape} (he : e ∈ fields) :
    e.1.name ≠ capitalised e.1.name := by
  have hnodup : e.1.spellings.Nodup := (List.pairwise_flatMap.1 h.nodup).1 e he
  rw [← h.capital_eq he] at hnodup
  exact List.rel_of_pairwise_cons hnodup List.mem_cons_self

/-- Fields that are all capitalised are apart from each other. -/
theorem AreCapitalised.apart (h : AreCapitalised fields) :
    (fields.map Prod.fst).Pairwise Field.Apart := by
  refine List.pairwise_map.2 ((List.pairwise_flatMap.1 h.nodup).2.imp fun hne name hname ↦ ?_)
  exact Bool.eq_false_iff.2 fun hspells ↦ hne name hname name (Field.spells_iff.1 hspells) rfl

/-- Members that differ in spelling give a field values that differ in spelling, and are the same
apart from the fields. -/
theorem AreCapitalised.occurrences (h : AreCapitalised fields) {e : Field × Shape} (he : e ∈ fields)
    (hms : List.Forall₂ (Shape.RespellsMember fields) ms ms') :
    List.Forall₂ e.2.Respells (e.1.occurrences ms) (e.1.occurrences ms') := by
  induction hms with
  | nil => exact .nil
  | @cons m m' ms ms' hm _ ih =>
    rw [Field.occurrences_cons, Field.occurrences_cons]
    rcases Shape.respellsMember_iff.1 hm with rfl | ⟨e', he', hname, hname', hvalue⟩
    · split
      · exact .cons (.refl _ _) ih
      · exact ih
    · rw [← h.spells_iff he'] at hname hname'
      rcases Field.eq_or_apart h.apart he' he with rfl | hapart
      · rw [if_pos hname, if_pos hname']
        exact .cons hvalue ih
      · rw [hapart.spells_eq_false hname, hapart.spells_eq_false hname']
        exact ih

/-- A field is given the same, however the members are spelled. -/
theorem AreCapitalised.field (h : AreCapitalised fields) {e : Field × Shape} (he : e ∈ fields)
    {respelled : Members} (hms : List.Forall₂ (Shape.RespellsMember fields) ms respelled)
    (hperm : respelled.Perm ms') (hcanonical : IsCanonical (.object ms))
    (hcanonical' : IsCanonical (.object ms')) (hdecode : Respects decode e.2) (place : Nat) :
    ((Source.members ms).field place e.1 decode).toOption =
      ((Source.members ms').field place e.1 decode).toOption := by
  have hvalues := h.occurrences he hms
  have hfound := e.1.occurrences_perm hperm
  have hlength := hvalues.length_eq.trans hfound.length_eq
  rcases hoccurrences : e.1.occurrences ms with _ | ⟨v, _ | ⟨w, vs⟩⟩
  · rw [hoccurrences, List.length_nil, eq_comm, List.length_eq_zero_iff] at hlength
    rw [field_of_occurrences_nil hoccurrences, field_of_occurrences_nil hlength]
  · rw [hoccurrences, List.length_singleton, eq_comm, List.length_eq_one_iff] at hlength
    obtain ⟨v', hv'⟩ := hlength
    rw [hoccurrences] at hvalues
    rw [hv', List.perm_singleton] at hfound
    rw [hfound] at hvalues
    obtain ⟨hvalue, -⟩ := List.forall₂_cons.1 hvalues
    have hcanonical_of : ∀ {ms : Members} {v : Json}, IsCanonical (.object ms) →
        e.1.occurrences ms = [v] → v.IsCanonical := by
      intro ms v hms hone
      have hmem : v ∈ e.1.occurrences ms := hone ▸ List.mem_singleton_self v
      obtain ⟨m, hm, -, rfl⟩ := Field.mem_occurrences.1 hmem
      exact (isCanonical_object.1 hms).2 m hm
    rw [field_of_occurrences_singleton hoccurrences, field_of_occurrences_singleton hv',
      toOption_map, toOption_map, hdecode.respells v v' (hcanonical_of hcanonical hoccurrences)
        (hcanonical_of hcanonical' hv') hvalue]
  · rw [hoccurrences, List.length_cons, List.length_cons] at hlength
    rcases hoccurrences' : e.1.occurrences ms' with _ | ⟨v', _ | ⟨w', vs'⟩⟩
    · simp [hoccurrences'] at hlength
    · simp [hoccurrences'] at hlength
    · rw [Source.field, Source.field, hoccurrences, hoccurrences']

/-- A field that is given in both spellings is refused. -/
theorem Field.IsTwice.field_ne_ok (h : f.IsTwice ms) (hcapital : f.capital = f)
    (hne : f.name ≠ capitalised f.name) (place : Nat) :
    ∀ o, (Source.members ms).field place f decode ≠ .ok o := by
  intro o hfield
  have hspells : ∀ {name}, f.IsSpelling name → f.spells name = true := fun hname ↦ by
    rwa [← spells_capital, hcapital] at hname
  -- two members of different names are two occurrences
  obtain ⟨m, hm, hm1⟩ := List.mem_map.1 h.1
  obtain ⟨m', hm', hm1'⟩ := List.mem_map.1 h.2
  have hfound : m ∈ ms.filter fun m ↦ f.spells m.1 :=
    List.mem_filter.2 ⟨hm, hspells (.inl hm1)⟩
  have hfound' : m' ∈ ms.filter fun m ↦ f.spells m.1 :=
    List.mem_filter.2 ⟨hm', hspells (.inr hm1')⟩
  rcases field_members_eq_ok_iff.1 hfield with ⟨hnil, -⟩ | ⟨v, a, hone, -, -⟩
  · rw [List.map_eq_nil_iff.1 hnil] at hfound
    cases hfound
  · obtain ⟨p, hp, -⟩ := List.map_eq_singleton_iff.1 hone
    rw [hp, List.mem_singleton] at hfound hfound'
    have hsame : m.1 = m'.1 := by rw [hfound, hfound']
    exact hne (hm1.symm.trans (hsame.trans hm1'))

/-- A field whose value holds both spellings of a member, or that is itself given in both, is
refused. -/
theorem AreCapitalised.field_holdsBoth (h : AreCapitalised fields) {e : Field × Shape}
    (he : e ∈ fields) (hdecode : Respects decode e.2)
    (hms : (e.1.name ∈ ms.map Prod.fst ∧ capitalised e.1.name ∈ ms.map Prod.fst) ∨
      ∃ m ∈ ms, e.1.IsSpelling m.1 ∧ e.2.HoldsBoth m.2) (place : Nat) :
    ∀ o, (Source.members ms).field place e.1 decode ≠ .ok o := by
  intro o hfield
  rcases hms with htwice | ⟨m, hm, hname, hboth⟩
  · exact Field.IsTwice.field_ne_ok htwice (h.capital_eq he) (h.ne he) place o hfield
  · have hmem : m.2 ∈ e.1.occurrences ms :=
      Field.mem_occurrences.2 ⟨m, hm, (h.spells_iff he).2 hname, rfl⟩
    rcases field_members_eq_ok_iff.1 hfield with ⟨hnil, -⟩ | ⟨v, a, hone, hv, -⟩
    · rw [hnil] at hmem
      cases hmem
    · rw [hone, List.mem_singleton] at hmem
      have hnone := hdecode.holdsBoth m.2 hboth
      rw [hmem, hv] at hnone
      cases hnone

/-! ### Records -/

/-- Two sources give the fields of an object the same. -/
def Source.Agree (fields : List (Field × Shape)) (s s' : Source) : Prop :=
  ∀ e ∈ fields, ∀ {β : Type} (decode : Decoder β), Respects decode e.2 → ∀ place,
    (s.field place e.1 decode).toOption = (s'.field place e.1 decode).toOption

namespace Record

variable {record : Record α}

/-- A record has the fields of a shape, decodes their values by decoders that have theirs, and is
built from what the fields are given. -/
structure Fields (record : Record α) (fields : List (Field × Shape)) : Prop where
  capitalised : AreCapitalised fields
  /-- The layout has these fields, with decoders that have their shapes. -/
  layout : List.Forall₂ (fun e e' ↦ e.1 = e'.1 ∧ Respects e.2 e'.2) record.layout fields
  asks : record.Asks
  /-- The record does not look at its source but through the fields. -/
  build : ∀ s s', Source.Agree fields s s' → (record.build s).toOption = (record.build s').toOption

/-- Each field of a record is in its layout, with a decoder to which spellings make no difference.
-/
theorem Fields.exists_layout (h : record.Fields fields) {e : Field × Shape} (he : e ∈ fields) :
    ∃ e' ∈ record.layout, e'.1 = e.1 ∧ Respects e'.2 e.2 := by
  obtain ⟨i, hi, rfl⟩ := List.getElem_of_mem he
  have hi' : i < record.layout.length := h.layout.length_eq ▸ hi
  exact ⟨record.layout[i], List.getElem_mem hi', h.layout.get hi' hi⟩

/-- Members in other spellings and in any order are decoded as the same record. -/
theorem Fields.ofMembers (h : record.Fields fields) {respelled : Members}
    (hms : List.Forall₂ (Shape.RespellsMember fields) ms respelled) (hperm : respelled.Perm ms')
    (hcanonical : IsCanonical (.object ms)) (hcanonical' : IsCanonical (.object ms')) :
    (record.ofMembers ms).toOption = (record.ofMembers ms').toOption := by
  rw [h.asks.toOption_ofMembers, h.asks.toOption_ofMembers]
  exact h.build _ _ fun e he _ _ hdecode place ↦
    h.capitalised.field he hms hperm hcanonical hcanonical' hdecode place

/-- Members that hold both spellings of a field are not decoded. -/
theorem Fields.ofMembers_holdsBoth (h : record.Fields fields)
    (hms : Shape.HoldsBothAmong fields ms) : (record.ofMembers ms).toOption = none := by
  rw [h.asks.toOption_ofMembers]
  cases hbuild : record.build (.members ms) with
  | error e => rfl
  | ok a =>
    obtain ⟨e, he, hboth⟩ := Shape.holdsBothAmong_iff.1 hms
    obtain ⟨e', he', hname, hdecode⟩ := h.exists_layout he
    obtain ⟨u, hu⟩ := h.asks ms a hbuild e' he'
    rw [hname] at hu
    exact absurd hu (h.capitalised.field_holdsBoth he hdecode hboth 0 u)

/-- A closed record has the shape of its fields. -/
theorem Fields.respects_decode (h : record.Fields fields) :
    Respects record.decode (.object fields) where
  respells v v' hv hv' hr := by
    rcases Shape.respells_object.1 hr with rfl | ⟨ms, ms', respelled, rfl, rfl, hms, hperm⟩
    · rfl
    · exact h.ofMembers hms hperm hv hv'
  holdsBoth v hv := by
    rw [Shape.HoldsBoth] at hv
    obtain ⟨ms, rfl, hms⟩ := hv
    exact h.ofMembers_holdsBoth hms

/-- The members that are no fields are the same, however the fields are spelled. -/
theorem Fields.others (h : record.Fields fields) {respelled : Members}
    (hms : List.Forall₂ (Shape.RespellsMember fields) ms respelled) (hperm : respelled.Perm ms')
    (hcanonical : IsCanonical (.object ms)) (hcanonical' : IsCanonical (.object ms')) :
    record.others ms = record.others ms' := by
  have hspelled : ∀ e ∈ fields, ∀ name, e.1.IsSpelling name →
      (record.layout.any fun e ↦ e.1.spells name) = true := by
    intro e he name hname
    obtain ⟨e', he', heq, -⟩ := h.exists_layout he
    refine List.any_eq_true.2 ⟨e', he', ?_⟩
    rw [heq]
    exact (h.capitalised.spells_iff he).2 hname
  have hsame : record.others ms = record.others respelled := by
    clear hperm hcanonical
    induction hms with
    | nil => rfl
    | @cons m m' ms ms' hm _ ih =>
      rw [Record.others, List.filter_cons, Record.others, List.filter_cons]
      rcases Shape.respellsMember_iff.1 hm with rfl | ⟨e, he, hname, hname', -⟩
      · rw [show (ms.filter _) = _ from ih]
        rfl
      · simp only [hspelled e he _ hname, hspelled e he _ hname', Bool.not_true]
        exact ih
  have hothers : (record.others ms).Perm (record.others ms') := hsame ▸ hperm.filter _
  have hascending : ∀ {ms : Members}, IsCanonical (.object ms) →
      ((record.others ms).map Prod.fst).Pairwise (· < ·) := fun hms ↦
    (isCanonical_object.1 hms).1.sublist (List.filter_sublist.map Prod.fst)
  exact eq_of_perm hothers (hascending hcanonical) (hascending hcanonical')

theorem toOption_decodeOpen (record : Record α) (ms : Members) :
    (record.decodeOpen (.object ms)).toOption = (record.ofMembers ms).toOption.bind fun a ↦
      (decodeMembers aloneInPart (record.others ms)).toOption.map (a, ·) := by
  rw [decodeOpen]
  cases record.ofMembers ms with
  | error e => rfl
  | ok a => exact toOption_map _ _

/-- A record with other members beside it has the shape of its fields. -/
theorem Fields.respects_decodeOpen (h : record.Fields fields) :
    Respects record.decodeOpen (.object fields) where
  respells v v' hv hv' hr := by
    rcases Shape.respells_object.1 hr with rfl | ⟨ms, ms', respelled, rfl, rfl, hms, hperm⟩
    · rfl
    · have hmembers := h.ofMembers hms hperm hv hv'
      have hothers := h.others hms hperm hv hv'
      rw [toOption_decodeOpen, toOption_decodeOpen, hmembers, hothers]
  holdsBoth v hv := by
    rw [Shape.HoldsBoth] at hv
    obtain ⟨ms, rfl, hms⟩ := hv
    rw [toOption_decodeOpen, h.ofMembers_holdsBoth hms]
    rfl

/-- A record of one field. -/
theorem fields_one {first : Decoder β} {shape : Shape} {mk : Option β → α}
    (hcapitalised : AreCapitalised [(f, shape)]) (hlayout : record.layout = [(f, check first)])
    (hbuild : ∀ s, record.build s = (s.field 0 f first).bind fun b ↦ .ok (mk b))
    (hfirst : Respects first shape) : record.Fields [(f, shape)] where
  capitalised := hcapitalised
  layout := hlayout ▸ .cons ⟨rfl, hfirst.check⟩ .nil
  asks ms a h := by
    rw [hbuild] at h
    obtain ⟨b, hb, -⟩ := exists_of_bind_eq_ok h
    rw [hlayout]
    exact List.forall_mem_singleton.2 (exists_field_check hb)
  build s s' h := by
    have hsame := h (f, shape) List.mem_cons_self first hfirst 0
    rw [hbuild, hbuild, toOption_bind, toOption_bind, hsame]

/-- A record of two fields. -/
theorem fields_two {g : Field} {first : Decoder β} {γ : Type} {second : Decoder γ}
    {shape shape' : Shape} {mk : Option β → Option γ → α}
    (hcapitalised : AreCapitalised [(f, shape), (g, shape')])
    (hlayout : record.layout = [(f, check first), (g, check second)])
    (hbuild : ∀ s, record.build s = (s.field 0 f first).bind fun b ↦
      (s.field 1 g second).bind fun c ↦ .ok (mk b c))
    (hfirst : Respects first shape) (hsecond : Respects second shape') :
    record.Fields [(f, shape), (g, shape')] where
  capitalised := hcapitalised
  layout := hlayout ▸ .cons ⟨rfl, hfirst.check⟩ (.cons ⟨rfl, hsecond.check⟩ .nil)
  asks ms a h := by
    rw [hbuild] at h
    obtain ⟨b, hb, h⟩ := exists_of_bind_eq_ok h
    obtain ⟨c, hc, -⟩ := exists_of_bind_eq_ok h
    rw [hlayout]
    exact List.forall_mem_cons.2 ⟨exists_field_check hb,
      List.forall_mem_singleton.2 (exists_field_check hc)⟩
  build s s' h := by
    have hsame := h (f, shape) List.mem_cons_self first hfirst 0
    have hsame' := h (g, shape') (List.mem_cons_of_mem _ List.mem_cons_self) second hsecond 1
    simp only [hbuild, toOption_bind, hsame, hsame']

end Record

end LspClient.Json
