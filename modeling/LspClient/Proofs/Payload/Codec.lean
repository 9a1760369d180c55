import LspClient.Lsp.Options
import LspClient.Proofs.Json.Spelling

/-!
# Codecs

A payload is decoded from a value and written as one, and what is in it that is not modelled is kept
as it is. The laws of a codec (`Codec.Lawful`) say that what is written is decoded as what it was
written from, exactly if what is kept is plain, and that it is tidy: no name stands twice in it, and
it is spelled in camelCase. Codecs of records share what is written for the values of fields
(`Writes`), and what a field makes of it (`field_optional`, `field_default`).
-/

namespace LspClient.Json

/-- A value has no name twice and its modelled members are spelled in camelCase. -/
def Shape.IsTidy (shape : Shape) (v : Json) : Prop :=
  v.HasUniqueNames ∧ shape.IsCamelCase v

/-- What is written for fields is tidy, as far as the values are, and the members beside it are not
modelled. -/
structure Writes (fields : List (Field × Shape)) (entries : List (Field × Option Json))
    (others : Members) : Prop where
  isWritten : IsWritten entries others
  /-- The values are those of the fields, in their order, and tidy. -/
  values : List.Forall₂ (fun e e' ↦ e.1 = e'.1 ∧ ∀ v ∈ e.2, e'.2.IsTidy v) entries fields
  apart : (fields.map fun e ↦ e.1.capital).Pairwise Field.Apart
  unmodelled : ∀ m ∈ others, ∀ e ∈ fields, ¬e.1.IsSpelling m.1

variable {fields : List (Field × Shape)} {entries : List (Field × Option Json)} {others : Members}

/-- Lists that are related element by element have the same fields. -/
theorem map_fst_eq {γ δ : Type} {R : Field × γ → Field × δ → Prop} {l : List (Field × γ)}
    {l' : List (Field × δ)} (h : List.Forall₂ R l l') (hR : ∀ e e', R e e' → e.1 = e'.1) :
    l.map Prod.fst = l'.map Prod.fst := by
  induction h with
  | nil => rfl
  | cons h _ ih => rw [List.map_cons, List.map_cons, hR _ _ h, ih]

/-- Entries for fields in their order, with tidy values, are written tidily beside members that are
not modelled. -/
theorem AreCapitalised.writes (h : AreCapitalised fields)
    (hvalues : List.Forall₂ (fun e e' ↦ e.1 = e'.1 ∧ ∀ v ∈ e.2, e'.2.IsTidy v) entries fields)
    (hcanonical : IsCanonical (.object others))
    (hothers : ∀ m ∈ others, ∀ e ∈ fields, e.1.spells m.1 = false) :
    Writes fields entries others := by
  have hnames : entries.map Prod.fst = fields.map Prod.fst := map_fst_eq hvalues fun _ _ h ↦ h.1
  refine ⟨⟨hnames ▸ h.apart, hcanonical, fun m hm e he ↦ ?_⟩, hvalues, ?_, fun m hm e he ↦ ?_⟩
  · obtain ⟨e', he', heq⟩ := List.mem_map.1 (hnames ▸ List.mem_map_of_mem he)
    exact heq ▸ hothers m hm e' he'
  · rw [List.map_congr_left fun e he ↦ h.capital_eq he]
    exact h.apart
  · rw [← h.spells_iff he, hothers m hm e he]
    exact Bool.false_ne_true

/-- What is written is tidy. -/
theorem Writes.isTidy (h : Writes fields entries others) :
    (Shape.object fields).IsTidy (.object (written entries others)) := by
  refine ⟨hasUniqueNames_object.2 ⟨h.isWritten.nodup, fun m hm ↦ ?_⟩, ?_⟩
  · rcases mem_written.1 hm with ⟨e, he, v, hv, rfl⟩ | hm
    · obtain ⟨i, hi, rfl⟩ := List.getElem_of_mem he
      exact ((h.values.get hi (h.values.length_eq ▸ hi)).2 v hv).1
    · exact ((isCanonical_object.1 h.isWritten.canonical).2 m hm).hasUniqueNames
  rw [Shape.IsCamelCase]
  rintro ms hms m hm
  injection hms with hms
  subst hms
  refine Shape.isCamelCaseMember_iff.2 fun e he hspelling ↦ ?_
  rcases mem_written.1 hm with ⟨e', he', v, hv, rfl⟩ | hm
  · obtain ⟨i, hi, rfl⟩ := List.getElem_of_mem he'
    have hi' : i < fields.length := h.values.length_eq ▸ hi
    obtain ⟨hname, hvalue⟩ : entries[i].1 = fields[i].1 ∧ ∀ v ∈ entries[i].2,
      fields[i].2.IsTidy v := h.values.get hi hi'
    -- the field that the member is written for is the only one that it spells
    have hapart : ((fields.map fun e ↦ (e.1.capital, e)).map Prod.fst).Pairwise Field.Apart := by
      rw [List.map_map]
      exact h.apart
    have hown : fields[i].1.capital.spells entries[i].1.name = true :=
      Field.spells_capital.2 (.inl (congrArg Field.name hname))
    rcases Field.eq_or_apart hapart (List.mem_map_of_mem he)
      (List.mem_map_of_mem (List.getElem_mem hi')) with heq | hne
    · obtain rfl : e = fields[i] := congrArg Prod.snd heq
      exact ⟨congrArg Field.name hname, (hvalue v hv).2⟩
    · rw [hne.spells_eq_false (Field.spells_capital.2 hspelling)] at hown
      cases hown
  · exact absurd hspelling (h.unmodelled m hm e he)

/-! ### Other members -/

section others

variable {α : Type} {record : Record α} {a : α} {v : Json}

theorem Record.Fields.map_layout (h : record.Fields fields) :
    record.layout.map Prod.fst = fields.map Prod.fst :=
  map_fst_eq h.layout fun _ _ h ↦ h.1

/-- Which names are spellings depends on nothing but the fields. -/
theorem any_spells_congr {γ δ : Type} {l : List (Field × γ)} {l' : List (Field × δ)}
    (h : l.map Prod.fst = l'.map Prod.fst) (name : String) :
    (l.any fun e ↦ e.1.spells name) = l'.any fun e ↦ e.1.spells name := by
  have hany := congrArg (List.any · fun f ↦ f.spells name) h
  rwa [List.any_map, List.any_map] at hany

/-- The members beside a record are canonical and no fields, and plain where nothing is embedded. -/
theorem Record.Fields.others_of_decodeOpen (h : record.Fields fields)
    (hdecode : record.decodeOpen v = .ok (a, others)) :
    (v.IsCanonical → IsCanonical (.object others)) ∧
      (∀ m ∈ others, ∀ e ∈ fields, e.1.spells m.1 = false) ∧
      (v.EmbedsNothing → ∀ m ∈ others, m.2.IsPlain) := by
  obtain ⟨ms, rfl, -, hothers⟩ := Record.exists_of_decodeOpen hdecode
  refine ⟨fun hcanonical ↦ ?_, fun m hm e he ↦ ?_, fun hembeds ↦ ?_⟩
  · obtain ⟨hascending, hms⟩ := isCanonical_object.1 hcanonical
    refine isCanonical_of_decodeMembers (isCanonical_object.2 ⟨?_, ?_⟩) hothers
    · exact hascending.sublist (List.filter_sublist.map Prod.fst)
    · exact fun m hm ↦ hms m (List.mem_filter.1 hm).1
  · have hname : m.1 ∈ (record.others ms).map Prod.fst :=
      names_of_decodeMembers hothers ▸ List.mem_map_of_mem hm
    obtain ⟨m', hm', hsame⟩ := List.mem_map.1 hname
    have hno := (List.mem_filter.1 hm').2
    rw [any_spells_congr h.map_layout, Bool.not_eq_true', hsame] at hno
    exact Bool.eq_false_iff.2 fun hspells ↦
      Bool.false_ne_true (hno.symm.trans (List.any_eq_true.2 ⟨e, he, hspells⟩))
  · refine isPlain_of_decodeMembers (fun m hm ↦ ?_) hothers
    exact (all_object.1 hembeds).2 m (List.mem_filter.1 hm).1

/-- A record and the members beside it are decoded again from what is written, exactly if the
members are plain and the record is built from its fields. -/
theorem Writes.exists_sorted (h : Writes fields entries others) (hrecord : record.Fields fields) :
    ∃ ms, (Json.object (written entries others)).sorted = .object ms ∧
      (∀ e ∈ entries, e.1.occurrences ms = (e.2.map sorted).toList) ∧
      ∀ a, record.decodeOpen (.object ms) = .ok (a, others) ↔
        record.build (.members ms) = .ok a ∧ ∀ m ∈ others, m.2.IsPlain := by
  obtain ⟨ms, hsorted, hfields, hothers⟩ := h.isWritten.exists_sorted
  refine ⟨ms, hsorted, hfields, fun a ↦ ?_⟩
  have hnames : record.layout.map Prod.fst = entries.map Prod.fst :=
    hrecord.map_layout.trans (map_fst_eq h.values fun _ _ h ↦ h.1).symm
  have hsame : record.others ms = others := by
    rw [← hothers, Record.others]
    simp only [any_spells_congr hnames]
  rw [hrecord.asks.decodeOpen_object_eq_ok_iff, hsame, decodeMembers_eq_self_iff]

end others

/-! ### Fields that may be missing -/

variable {α : Type} {decode : Decoder α} {f : Field} {ms : Members}

/-- A value that is given for an optional field is one that stands in the source. -/
theorem Source.exists_of_optional {source : Source} {place : Nat} {o : Option α}
    (h : (source.field place f (decodeOption decode)).map Option.join = .ok o) :
    ∀ a ∈ o, ∃ v ∈ source.values, decode v = .ok a := by
  rintro a rfl
  obtain ⟨u, hfield, hjoin⟩ := map_eq_ok_iff.1 h
  obtain rfl : u = some (some a) := Option.join_eq_some_iff.1 hjoin
  obtain ⟨v, hv, hdecode⟩ := Source.exists_of_field hfield
  cases v with
  | null => cases hdecode
  | bool | number | string | array | object =>
    obtain ⟨b, hb, hsome⟩ := exists_of_map_eq_ok hdecode
    cases hsome
    exact ⟨_, hv, hb⟩

/-- An optional field gives back what was written for it, if its value does. -/
theorem field_optional (place : Nat) (decode : Decoder α) {json : α → Json} {o : Option α}
    (h : f.occurrences ms = ((o.map json).map sorted).toList)
    (hnull : ∀ a, json a ≠ .null) :
    ((Source.members ms).field place f (decodeOption decode)).map Option.join = .ok o ↔
      ∀ a ∈ o, decode (json a).sorted = .ok a := by
  cases o with
  | none =>
    rw [field_of_occurrences_nil h]
    exact ⟨fun _ ↦ nofun, fun _ ↦ rfl⟩
  | some a =>
    rw [field_of_occurrences_singleton h, decodeOption_of_ne decode (sorted_ne_null (hnull a))]
    simp only [Option.mem_some_iff, forall_eq']
    cases decode (json a).sorted <;> simp [Except.map]

/-- A field with a default gives back what was written for it. -/
theorem field_default (place : Nat) {default a : α} {v : Json} (h : f.occurrences ms = [v])
    (hnull : v ≠ .null) (hdecode : decode v = .ok a) :
    ((Source.members ms).field place f (orDefault default decode)).map (·.getD default) =
      .ok a := by
  rw [field_of_occurrences_singleton h, orDefault, decodeOption_of_ne decode hnull, hdecode]
  rfl

end LspClient.Json

namespace LspClient.Lsp

open Json (Decoder Field IsCanonical Members Shape Source)

/-! ### Laws -/

/-- How a payload is decoded and written, which of its members are modelled, and the objects in it
that are kept as they are. -/
structure Codec (α : Type) where
  /-- How a payload is decoded. -/
  decode : Decoder α
  /-- What a payload is written as. -/
  json : α → Json
  /-- The members that are modelled. -/
  shape : Shape
  /-- The objects that a payload keeps as they are. -/
  kept : α → List Members

variable {α : Type}

/-- Nothing that is kept holds an object that begins with the reserved name. -/
def Codec.KeepsPlain (codec : Codec α) (a : α) : Prop :=
  ∀ ms ∈ codec.kept a, ∀ m ∈ ms, m.2.IsPlain

/-- The laws of a codec; `sound` is what holds of all that is decoded. -/
structure Codec.Lawful (codec : Codec α) (sound : α → Prop) : Prop where
  /-- What is decoded from a canonical value is sound. -/
  sound_of_decode : ∀ {v a}, v.IsCanonical → codec.decode v = .ok a → sound a
  /-- What is kept of a value in which nothing is embedded is plain. -/
  keepsPlain : ∀ {v a}, v.EmbedsNothing → codec.decode v = .ok a → codec.KeepsPlain a
  /-- A sound payload is decoded again from what it is written as, exactly if what it keeps is
  plain. -/
  roundTrip : ∀ {a}, sound a →
    (codec.decode (codec.json a).sorted = .ok a ↔ codec.KeepsPlain a)
  /-- What a sound payload is written as is tidy. -/
  isTidy : ∀ {a}, sound a → codec.shape.IsTidy (codec.json a)

/-- A codec that keeps nothing is lawful if it decodes whatever it writes. -/
theorem Codec.lawful_of_kept_eq_nil {codec : Codec α} (hkept : ∀ a, codec.kept a = [])
    (hroundTrip : ∀ a, codec.decode (codec.json a).sorted = .ok a)
    (htidy : ∀ a, codec.shape.IsTidy (codec.json a)) : codec.Lawful fun _ ↦ True := by
  have hplain : ∀ a, codec.KeepsPlain a := fun a ms hms ↦ by
    rw [hkept a] at hms
    cases hms
  exact {
    sound_of_decode := fun _ _ ↦ trivial
    keepsPlain := fun {_ a} _ _ ↦ hplain a
    roundTrip := fun {a} _ ↦ ⟨fun _ ↦ hplain a, fun _ ↦ hroundTrip a⟩
    isTidy := fun {a} _ ↦ htidy a }

theorem Codec.Lawful.decode_json {codec : Codec α} (h : codec.Lawful fun _ ↦ True)
    (hkept : ∀ a, codec.kept a = []) (a : α) : codec.decode (codec.json a).sorted = .ok a := by
  refine (h.roundTrip trivial).2 fun ms hms ↦ ?_
  rw [hkept a] at hms
  cases hms

/-- The codec of a record that is written from the values of its fields alone, and is built from
them again. -/
theorem Codec.lawful_of_record {record : Json.Record α} {fields : List (Field × Shape)}
    {json : α → Json} {entries : α → List (Field × Option Json)} (hrecord : record.Fields fields)
    (hjson : ∀ a, json a = .object (Json.written (entries a) []))
    (hvalues : ∀ a, List.Forall₂ (fun e e' ↦ e.1 = e'.1 ∧ ∀ v ∈ e.2, e'.2.IsTidy v) (entries a)
      fields)
    (hbuild : ∀ a ms, (∀ e ∈ entries a, e.1.occurrences ms = (e.2.map Json.sorted).toList) →
      record.build (.members ms) = .ok a) :
    (Codec.mk record.decode json (.object fields) fun _ ↦ []).Lawful fun _ ↦ True := by
  have hwrites : ∀ a, Json.Writes fields (entries a) [] := fun a ↦
    hrecord.capitalised.writes (hvalues a)
      (Json.isCanonical_object.2 ⟨.nil, List.forall_mem_nil _⟩) (List.forall_mem_nil _)
  refine Codec.lawful_of_kept_eq_nil (fun _ ↦ rfl) (fun a ↦ ?_) fun a ↦ ?_
  · obtain ⟨ms, hsorted, hfields, -⟩ := (hwrites a).isWritten.exists_sorted
    show record.decode (json a).sorted = .ok a
    rw [hjson, hsorted]
    exact hrecord.asks.ofMembers_eq_ok_iff.2 (hbuild a ms hfields)
  · show (Shape.object fields).IsTidy (json a)
    rw [hjson]
    exact (hwrites a).isTidy

end LspClient.Lsp
