import LspClient.Proofs.Json.Spelling

/-!
# What decoders take

A decoder takes exactly the values of some form (`Takes`), whatever it makes of them. A record takes
objects that give each field at most once, in whichever spelling, and arrays of its fields in their
declared order, the last of which may be missing; and the value of a field has the field's form or
is `null` (`IsRecordOf`). That it takes nothing else is shown from what its fields take
(`Record.HasForms.takes_decode`).

A record with other members beside it takes what it can also keep the other members of
(`Record.HasForms.exists_decodeOpen_iff`). If nothing is embedded in a value, it can be kept exactly
if it is plain (`exists_decodeValue_iff`).
-/

namespace LspClient.Json

/-- The values of a form, and `null`. -/
def OrNull (form : Json → Prop) (v : Json) : Prop :=
  v = .null ∨ form v

/-- A decoder takes exactly the values of a form. -/
def Takes {α : Type} (decode : Decoder α) (form : Json → Prop) : Prop :=
  ∀ v, v.HasUniqueNames → ((∃ a, decode v = .ok a) ↔ form v)

variable {α β : Type} {decode : Decoder α} {form form' : Json → Prop} {ms : Members}
  {expected : String} {v : Json}

/-! ### Values -/

/-- An integer is decoded from a number that was kept as one and lies between the bounds. -/
theorem decodeInt_eq_ok_iff {low high i : Int} : decodeInt low high expected v = .ok i ↔
    ∃ n, v = .number n ∧ n.int? = some i ∧ low ≤ i ∧ i ≤ high := by
  cases v with
  | number n =>
    rw [decodeInt]
    cases hn : n.int? with
    | none => simp [unexpected, hn]
    | some j =>
      simp only [number.injEq, exists_eq_left', hn, Option.some.injEq]
      split <;> grind
  | null | bool | string | array | object => simp [decodeInt, unexpected]

/-- A string is decoded from a string. -/
theorem decodeString_eq_ok_iff {s : String} : decodeString v = .ok s ↔ v = .string s := by
  cases v <;> simp [decodeString, unexpected]

theorem exists_map_eq_ok_iff {ε : Type} {x : Except ε α} (f : α → β) :
    (∃ b, x.map f = .ok b) ↔ ∃ a, x = .ok a := by
  cases x <;> simp [Except.map]

/-- What is made of a decoded value makes no difference to which values are decoded. -/
theorem Takes.map (h : Takes decode form) (f : α → β) : Takes (fun v ↦ (decode v).map f) form :=
  fun v hv ↦ (exists_map_eq_ok_iff f).trans (h v hv)

theorem Takes.check (h : Takes decode form) : Takes (check decode) form :=
  h.map _

/-- Where null is allowed, it is one form more. -/
theorem Takes.decodeOption (h : Takes decode form) : Takes (decodeOption decode) (OrNull form) := by
  intro v hv
  by_cases hnull : v = .null
  · subst hnull
    exact iff_of_true ⟨none, rfl⟩ (.inl rfl)
  · rw [decodeOption_of_ne decode hnull, exists_map_eq_ok_iff, h v hv, OrNull, or_iff_right hnull]

theorem Takes.orDefault (h : Takes decode form) (default : α) :
    Takes (orDefault default decode) (OrNull form) :=
  h.decodeOption.map _

/-- Of two alternatives the values of either form are decoded. -/
theorem Takes.decodeEither {first second : Decoder α} (h : Takes first form)
    (h' : Takes second form') (type : String) :
    Takes (decodeEither type first second) fun v ↦ form v ∨ form' v := by
  intro v hv
  show _ ↔ form v ∨ form' v
  rw [← h v hv, ← h' v hv, Json.decodeEither]
  cases first v with
  | ok a => simp
  | error e => cases second v <;> simp

/-- Members are kept exactly if their values are. -/
theorem exists_decodeMembers_iff : (∃ ms', decodeMembers expected ms = .ok ms') ↔
    ∀ m ∈ ms, ∃ w, decodeValue expected m.2 = .ok w := by
  induction ms with
  | nil => exact iff_of_true ⟨[], rfl⟩ (List.forall_mem_nil _)
  | cons m ms ih =>
    rw [List.forall_mem_cons, ← ih]
    constructor
    · rintro ⟨ms', h⟩
      obtain ⟨w, rest, hw, hrest, -⟩ := decodeMembers_cons_eq_ok.1 h
      exact ⟨⟨w, hw⟩, rest, hrest⟩
    · rintro ⟨⟨w, hw⟩, rest, hrest⟩
      exact ⟨_, decodeMembers_cons_eq_ok.2 ⟨w, rest, hw, hrest, rfl⟩⟩

/-- Elements can be kept if each of them can. -/
theorem exists_decodeValues_iff {xs : List Json} : (∃ ys, decodeValues expected xs = .ok ys) ↔
    ∀ x ∈ xs, ∃ y, decodeValue expected x = .ok y := by
  induction xs with
  | nil => exact iff_of_true ⟨[], rfl⟩ (List.forall_mem_nil _)
  | cons x xs ih =>
    rw [List.forall_mem_cons, ← ih]
    constructor
    · rintro ⟨ys, h⟩
      obtain ⟨y, rest, hy, hrest, -⟩ := decodeValues_cons_eq_ok.1 h
      exact ⟨⟨y, hy⟩, rest, hrest⟩
    · rintro ⟨⟨y, hy⟩, rest, hrest⟩
      exact ⟨_, decodeValues_cons_eq_ok.2 ⟨y, rest, hy, hrest, rfl⟩⟩

/-- A value in which nothing is embedded can be kept exactly if it is plain. -/
theorem exists_decodeValue_iff (h : v.EmbedsNothing) :
    (∃ w, decodeValue expected v = .ok w) ↔ v.IsPlain := by
  refine ⟨?_, fun hplain ↦ ⟨v, decodeValue_eq_self_iff.2 hplain⟩⟩
  rintro ⟨w, hw⟩
  induction v using Json.induction generalizing w with
  | hnull | hbool | hnumber | hstring => trivial
  | harray xs ih =>
    rw [decodeValue] at hw
    obtain ⟨ys, hys, -⟩ := exists_of_map_eq_ok hw
    refine isPlain_array.2 fun x hx ↦ ?_
    obtain ⟨y, hy⟩ := exists_decodeValues_iff.1 ⟨ys, hys⟩ x hx
    exact ih x hx ((all_array.1 h).2 x hx) y hy
  | hobject ms ih =>
    obtain ⟨hself, hms⟩ := all_object.1 h
    by_cases hbegins : BeginsPlain ms
    · rw [decodeValue_object hbegins] at hw
      obtain ⟨ms', hms', -⟩ := exists_of_map_eq_ok hw
      refine isPlain_object.2 ⟨hbegins, fun m hm ↦ ?_⟩
      obtain ⟨w, hw⟩ := exists_decodeMembers_iff.1 ⟨ms', hms'⟩ m hm
      exact ih m hm (hms m hm) w hw
    · obtain ⟨name, s, rfl, hname, -⟩ := exists_of_decodeValue_embedded hbegins hw
      exact absurd hname hself

/-! ### Fields -/

variable {f : Field} {place : Nat} {source : Source}

/-- Where no name stands twice, a field that is not given in both spellings has one value or
none. -/
theorem Field.exists_occurrences_eq (hcapital : f.capital = f) (hnodup : (ms.map Prod.fst).Nodup)
    (h : ¬f.IsTwice ms) : ∃ o : Option Json, f.occurrences ms = o.toList := by
  have hspells : ∀ {name}, f.spells name = true → f.IsSpelling name := fun hname ↦ by
    rwa [← spells_capital, hcapital]
  by_cases hfirst : ∃ m ∈ ms, f.spells m.1 = true
  · obtain ⟨m, hm, hname⟩ := hfirst
    obtain ⟨front, back, rfl⟩ := List.append_of_mem hm
    have hothers := not_isSpelling_of_nodup hnodup h (hspells hname)
    exact ⟨some m.2, occurrences_of_only hname fun n hn ↦ Bool.eq_false_iff.2 fun hspelled ↦
      hothers n.1 (List.mem_map_of_mem hn) (hspells hspelled)⟩
  · refine ⟨none, occurrences_of_forall fun m hm ↦ Bool.eq_false_iff.2 fun hname ↦ ?_⟩
    exact hfirst ⟨m, hm, hname⟩

/-- A field that is spelled otherwise with a capital first letter, and in no third way. -/
structure Field.IsCapitalised (f : Field) : Prop where
  capital : f.capital = f
  ne : f.name ≠ capitalised f.name

/-- Members give a field a value, or none, exactly if they do not give it in both spellings and what
they give it is taken. -/
theorem exists_field_members_iff (hf : f.IsCapitalised) (hunique : HasUniqueNames (.object ms))
    (h : Takes decode form) : (∃ o, (Source.members ms).field place f decode = .ok o) ↔
      ¬f.IsTwice ms ∧ ∀ m ∈ ms, f.IsSpelling m.1 → form m.2 := by
  obtain ⟨hnodup, hvalues⟩ := hasUniqueNames_object.1 hunique
  have htaken : ¬f.IsTwice ms → ((∃ o, (Source.members ms).field place f decode = .ok o) ↔
      ∀ m ∈ ms, f.IsSpelling m.1 → form m.2) := fun htwice ↦ by
    have hfound : (∀ m ∈ ms, f.IsSpelling m.1 → form m.2) ↔ ∀ v ∈ f.occurrences ms, form v := by
      simp only [Field.mem_occurrences, ← Field.spells_capital, hf.capital]
      exact ⟨fun h v ⟨m, hm, hname, hv⟩ ↦ hv ▸ h m hm hname,
        fun h m hm hname ↦ h m.2 ⟨m, hm, hname, rfl⟩⟩
    obtain ⟨o, ho⟩ := Field.exists_occurrences_eq hf.capital hnodup htwice
    rw [hfound, ho]
    cases o with
    | none => exact iff_of_true ⟨none, field_of_occurrences_nil ho place decode⟩ (by simp)
    | some v =>
      have hmem : v ∈ f.occurrences ms := ho ▸ List.mem_singleton_self v
      obtain ⟨m, hm, -, rfl⟩ := Field.mem_occurrences.1 hmem
      rw [field_of_occurrences_singleton ho, exists_map_eq_ok_iff, h _ (hvalues m hm)]
      simp
  by_cases htwice : f.IsTwice ms
  · exact iff_of_false (fun ⟨o, ho⟩ ↦ htwice.field_ne_ok hf.capital hf.ne place o ho)
      fun h ↦ h.1 htwice
  · rw [htaken htwice, and_iff_right htwice]

/-- Elements give a field a value, or none, exactly if what stands in its place is taken. -/
theorem exists_field_elements_iff {xs : List Json} (hunique : HasUniqueNames (.array xs))
    (h : Takes decode form) : (∃ o, (Source.elements xs).field place f decode = .ok o) ↔
      ∀ x ∈ xs[place]?, form x := by
  rw [Source.field]
  rcases hx : xs[place]? with _ | x
  · simp
  · have hmem : x ∈ xs := List.mem_of_getElem? hx
    simp only [exists_map_eq_ok_iff, h x ((all_array.1 hunique).2 x hmem), Option.mem_some_iff,
      forall_eq']

/-- What a field is checked for is what it is decoded for. -/
theorem exists_field_check_iff : (∃ u, source.field place f (check decode) = .ok u) ↔
    ∃ o, source.field place f decode = .ok o := by
  have hcheck : source.field place f (check decode) =
      (source.field place f decode).map (Option.map fun _ ↦ ()) := by
    have hvalue : ∀ v, (check decode v).map some =
        ((decode v).map some).map (Option.map fun _ ↦ ()) := fun v ↦ by
      rw [check]
      cases decode v <;> rfl
    cases source with
    | members ms =>
      rcases hfound : f.occurrences ms with _ | ⟨v, _ | ⟨w, vs⟩⟩
      · rw [field_of_occurrences_nil hfound, field_of_occurrences_nil hfound]
        rfl
      · rw [field_of_occurrences_singleton hfound, field_of_occurrences_singleton hfound, hvalue]
      · rw [Source.field, Source.field, hfound]
        rfl
    | elements xs =>
      rw [Source.field, Source.field]
      cases xs[place]? with
      | none => rfl
      | some v => exact hvalue v
  rw [hcheck, exists_map_eq_ok_iff]

/-! ### Records -/

/-- The fields of a record with the forms of their values. -/
abbrev Forms := List (Field × (Json → Prop))

variable {forms : Forms} {xs : List Json}

/-- Members give no field in both spellings, and each field `null` or a value of its form. -/
structure MembersHave (forms : Forms) (ms : Members) : Prop where
  once : ∀ e ∈ forms, ¬e.1.IsTwice ms
  values : ∀ e ∈ forms, ∀ m ∈ ms, e.1.IsSpelling m.1 → OrNull e.2 m.2

/-- Members that have their forms have weaker ones too. -/
theorem MembersHave.imp {forms' : Forms} (h : MembersHave forms ms)
    (himp : List.Forall₂ (fun e e' ↦ e.1 = e'.1 ∧ ∀ m ∈ ms, e.2 m.2 → e'.2 m.2) forms forms') :
    MembersHave forms' ms := by
  have hfrom : ∀ e' ∈ forms', ∃ e ∈ forms, e.1 = e'.1 ∧ ∀ m ∈ ms, e.2 m.2 → e'.2 m.2 := by
    intro e' he'
    obtain ⟨i, hi', rfl⟩ := List.getElem_of_mem he'
    have hi : i < forms.length := himp.length_eq ▸ hi'
    exact ⟨forms[i], List.getElem_mem hi, himp.get hi hi'⟩
  refine ⟨fun e' he' ↦ ?_, fun e' he' m hm hname ↦ ?_⟩
  · obtain ⟨e, he, heq, -⟩ := hfrom e' he'
    exact heq ▸ h.once e he
  · obtain ⟨e, he, heq, hvalue⟩ := hfrom e' he'
    exact (h.values e he m hm (heq ▸ hname)).imp_right (hvalue m hm)

/-- Elements are no more than there are fields, and each is `null` or a value of the form of the
field in its place. -/
def ElementsHave : Forms → List Json → Prop
  | _, [] => True
  | [], _ :: _ => False
  | (_, form) :: forms, x :: xs => OrNull form x ∧ ElementsHave forms xs

/-- The objects and arrays of the fields of a record. -/
inductive IsRecordOf (forms : Forms) : Json → Prop where
  | object {ms : Members} (h : MembersHave forms ms) : IsRecordOf forms (.object ms)
  | array {xs : List Json} (h : ElementsHave forms xs) : IsRecordOf forms (.array xs)

theorem isRecordOf_object : IsRecordOf forms (.object ms) ↔ MembersHave forms ms :=
  ⟨fun h ↦ by cases h; assumption, .object⟩

theorem isRecordOf_array : IsRecordOf forms (.array xs) ↔ ElementsHave forms xs :=
  ⟨fun h ↦ by cases h; assumption, .array⟩

/-- A source gives each field a value that is as it should be, or none; the first of them has the
given place. -/
def Source.GivesAll (source : Source) (layout : List (Field × Decoder Unit)) (place : Nat) : Prop :=
  ∀ e ∈ layout.zipIdx place, ∃ u, source.field e.2 e.1.1 e.1.2 = .ok u

/-- All fields of a layout are given something, if the first one and all others are. -/
theorem givesAll_cons {e : Field × Decoder Unit} {layout : List (Field × Decoder Unit)} :
    source.GivesAll (e :: layout) place ↔
      (∃ u, source.field place e.1 e.2 = .ok u) ∧ source.GivesAll layout (place + 1) := by
  rw [Source.GivesAll, List.zipIdx_cons, List.forall_mem_cons]
  rfl

theorem givesAll_nil : source.GivesAll [] place :=
  List.forall_mem_nil _

/-- In an object a field is found wherever it stands. -/
theorem givesAll_members {layout : List (Field × Decoder Unit)} :
    (Source.members ms).GivesAll layout place ↔
      ∀ e ∈ layout, ∃ u, (Source.members ms).field 0 e.1 e.2 = .ok u := by
  induction layout generalizing place with
  | nil => exact iff_of_true givesAll_nil (List.forall_mem_nil _)
  | cons e layout ih => rw [givesAll_cons, ih, List.forall_mem_cons]; rfl

theorem givesAll_elements_nil {layout : List (Field × Decoder Unit)} :
    (Source.elements []).GivesAll layout place :=
  fun _ _ ↦ ⟨none, rfl⟩

/-- The elements behind the first are those of the fields behind the first. -/
theorem givesAll_elements_cons {x : Json} {layout : List (Field × Decoder Unit)} :
    (Source.elements (x :: xs)).GivesAll layout (place + 1) ↔
      (Source.elements xs).GivesAll layout place := by
  induction layout generalizing place with
  | nil => exact iff_of_true givesAll_nil givesAll_nil
  | cons e layout ih => rw [givesAll_cons, givesAll_cons, ih]; rfl

namespace Record

variable {record : Record α} {fields : List (Field × Shape)}

/-- A record is built exactly if each of its fields is given a value that is as it should be, or
none. -/
def IsBuiltFromAll (record : Record α) : Prop :=
  ∀ s, (∃ a, record.build s = .ok a) ↔ s.GivesAll record.layout 0

/-- A record takes values of the given forms in its fields, and can do without any of them. -/
structure HasForms (record : Record α) (forms : Forms) : Prop where
  capitalised : ∀ e ∈ record.layout, e.1.IsCapitalised
  layout : List.Forall₂ (fun e e' ↦ e.1 = e'.1 ∧ Takes e.2 (OrNull e'.2)) record.layout forms
  build : record.IsBuiltFromAll

/-- A record that takes values of certain forms asks for every field. -/
theorem HasForms.asks (h : record.HasForms forms) : record.Asks :=
  fun ms a ha ↦ givesAll_members.1 ((h.build (.members ms)).1 ⟨a, ha⟩)

/-- Such a record is decoded from members exactly if they have the forms. -/
theorem HasForms.exists_ofMembers_iff (h : record.HasForms forms)
    (hunique : HasUniqueNames (.object ms)) :
    (∃ a, record.ofMembers ms = .ok a) ↔ MembersHave forms ms := by
  have hgiven : (∀ e ∈ record.layout, ∃ u, (Source.members ms).field 0 e.1 e.2 = .ok u) ↔
      ∀ e ∈ forms, ¬e.1.IsTwice ms ∧ ∀ m ∈ ms, e.1.IsSpelling m.1 → OrNull e.2 m.2 := by
    have hlayout := h.layout
    have hcapitalised := h.capitalised
    generalize record.layout = layout at hlayout hcapitalised
    clear h
    induction hlayout with
    | nil => exact iff_of_true (List.forall_mem_nil _) (List.forall_mem_nil _)
    | @cons e e' layout forms he _ ih =>
      obtain ⟨hfirst, hrest⟩ := List.forall_mem_cons.1 hcapitalised
      have hvalue := @exists_field_members_iff _ _ _ _ _ 0 hfirst hunique he.2
      rw [he.1] at hvalue
      rw [List.forall_mem_cons, List.forall_mem_cons, he.1]
      exact and_congr hvalue (ih hrest)
  simp only [h.asks.ofMembers_eq_ok_iff]
  rw [h.build, givesAll_members, hgiven]
  exact ⟨fun h ↦ ⟨fun e he ↦ (h e he).1, fun e he ↦ (h e he).2⟩,
    fun h e he ↦ ⟨h.once e he, h.values e he⟩⟩

/-- Such a record is decoded from elements exactly if they have the forms. -/
theorem HasForms.exists_ofElements_iff (h : record.HasForms forms)
    (hunique : HasUniqueNames (.array xs)) :
    (∃ a, record.ofElements xs = .ok a) ↔ ElementsHave forms xs := by
  simp only [ofElements_eq_ok_iff, exists_and_right]
  rw [h.build]
  have hlayout := h.layout
  generalize record.layout = layout at hlayout
  clear h
  induction hlayout generalizing xs with
  | nil => cases xs <;> simp [givesAll_nil, ElementsHave]
  | @cons e e' layout forms he _ ih =>
    rw [givesAll_cons, exists_field_elements_iff hunique he.2]
    cases xs with
    | nil => exact iff_of_true ⟨⟨by simp, givesAll_elements_nil⟩, Nat.zero_le _⟩ trivial
    | cons x xs =>
      have hrest : HasUniqueNames (.array xs) :=
        all_array.2 ⟨trivial, fun y hy ↦ (all_array.1 hunique).2 y (List.mem_cons_of_mem x hy)⟩
      have hfirst : (∀ y ∈ (x :: xs)[0]?, OrNull e'.2 y) ↔ OrNull e'.2 x := by simp
      rw [givesAll_elements_cons, hfirst, and_assoc, List.length_cons, List.length_cons,
        Nat.add_le_add_iff_right]
      exact and_congr_right' (ih hrest)

/-- **A record takes the objects and arrays of its fields, and nothing else.** -/
theorem HasForms.takes_decode (h : record.HasForms forms) :
    Takes record.decode (IsRecordOf forms) := by
  intro v hv
  cases v with
  | object ms => exact (h.exists_ofMembers_iff hv).trans isRecordOf_object.symm
  | array xs => exact (h.exists_ofElements_iff hv).trans isRecordOf_array.symm
  | null | bool | number | string => exact iff_of_false nofun nofun

/-- A record with other members beside it takes the objects of its fields whose other members can be
kept. -/
theorem HasForms.exists_decodeOpen_iff (h : record.HasForms forms)
    (hunique : HasUniqueNames (.object ms)) :
    (∃ p, record.decodeOpen (.object ms) = .ok p) ↔ MembersHave forms ms ∧
      ∀ m ∈ record.others ms, ∃ w, decodeValue aloneInPart m.2 = .ok w := by
  rw [← h.exists_ofMembers_iff hunique, ← exists_decodeMembers_iff]
  simp only [h.asks.ofMembers_eq_ok_iff, Prod.exists, h.asks.decodeOpen_object_eq_ok_iff]
  exact exists_and_exists_comm.symm

/-- A record of one field. -/
theorem isBuiltFromAll_one {first : Decoder β} {mk : Option β → α}
    (hlayout : record.layout = [(f, Json.check first)])
    (hbuild : ∀ s, record.build s = (s.field 0 f first).bind fun b ↦ .ok (mk b)) :
    record.IsBuiltFromAll := by
  intro s
  rw [hlayout, givesAll_cons, exists_field_check_iff, and_iff_left givesAll_nil, hbuild]
  cases s.field 0 f first <;> simp [Except.bind]

/-- A record of two fields. -/
theorem isBuiltFromAll_two {g : Field} {γ : Type} {first : Decoder β} {second : Decoder γ}
    {mk : Option β → Option γ → α}
    (hlayout : record.layout = [(f, Json.check first), (g, Json.check second)])
    (hbuild : ∀ s, record.build s = (s.field 0 f first).bind fun b ↦
      (s.field 1 g second).bind fun c ↦ .ok (mk b c)) : record.IsBuiltFromAll := by
  intro s
  rw [hlayout, givesAll_cons, givesAll_cons, exists_field_check_iff, exists_field_check_iff,
    and_iff_left givesAll_nil, hbuild]
  cases s.field 0 f first with
  | error e => simp [Except.bind]
  | ok b => cases s.field 1 g second <;> simp [Except.bind]

/-- The fields of a record that has a shape are capitalised. -/
theorem Fields.isCapitalised (h : record.Fields fields) :
    ∀ e ∈ record.layout, e.1.IsCapitalised := by
  intro e he
  obtain ⟨i, hi, rfl⟩ := List.getElem_of_mem he
  have hi' : i < fields.length := h.layout.length_eq ▸ hi
  obtain ⟨heq, -⟩ := h.layout.get hi hi'
  have hmem : fields[i] ∈ fields := List.getElem_mem hi'
  have hsame : record.layout[i].1 = fields[i].1 := heq
  rw [hsame]
  exact ⟨h.capitalised.capital_eq hmem, h.capitalised.ne hmem⟩

end Record

end LspClient.Json
