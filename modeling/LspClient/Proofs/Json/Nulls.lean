import LspClient.Proofs.Json.Spelling
import Mathlib.Logic.Relation

/-!
# Members that are null

A modelled member that is `null` may as well be missing. Two relations say so for the members of an
object: one member is added as `null` where its field has none (`Shape.AddsNull`), or any set of
modelled members that are `null` is removed (`Shape.DropsNulls`), here or inside modelled objects.

A decoder ignores nulls if adding one makes no difference to it (`IgnoresNulls`), and a record does
if it gives a field that is `null` the value of a missing one
(`Record.TakesNulls.ignoresNulls_decode`, `Record.TakesNulls.ignoresNulls_decodeOpen`). Removing is
adding in reverse, one member after another (`DropsNulls.reflTransGen`), unless an object holds both
spellings of a member: it is refused, and what is left of it without the `null` need not be.
-/

namespace LspClient.Json

namespace Shape

variable {fields : List (Field × Shape)} {ms ms' : Members}

/-- A modelled member is added as `null`, in either spelling: here, where neither spelling of it
occurs, or in the value of a modelled member. -/
inductive AddsNull : List (Field × Shape) → Members → Members → Prop where
  | here {fields : List (Field × Shape)} {e : Field × Shape} {name : String} {front back : Members}
      (he : e ∈ fields) (hname : e.1.IsSpelling name)
      (hnone : ∀ m ∈ front ++ back, ¬e.1.IsSpelling m.1) :
      AddsNull fields (front ++ back) (front ++ (name, .null) :: back)
  | inside {fields inner : List (Field × Shape)} {f : Field} {name : String}
      {front back ms ms' : Members} (he : (f, object inner) ∈ fields) (hname : f.IsSpelling name)
      (h : AddsNull inner ms ms') :
      AddsNull fields (front ++ (name, .object ms) :: back) (front ++ (name, .object ms') :: back)

/-- Any set of modelled members that are `null` is removed, here and in the values of modelled
members. -/
inductive DropsNulls : List (Field × Shape) → Members → Members → Prop where
  | nil {fields : List (Field × Shape)} : DropsNulls fields [] []
  | keep {fields : List (Field × Shape)} {ms ms' : Members} (m : String × Json)
      (h : DropsNulls fields ms ms') : DropsNulls fields (m :: ms) (m :: ms')
  | drop {fields : List (Field × Shape)} {e : Field × Shape} {name : String} {ms ms' : Members}
      (he : e ∈ fields) (hname : e.1.IsSpelling name) (h : DropsNulls fields ms ms') :
      DropsNulls fields ((name, .null) :: ms) ms'
  | inside {fields inner : List (Field × Shape)} {f : Field} {name : String}
      {vs vs' ms ms' : Members} (he : (f, object inner) ∈ fields) (hname : f.IsSpelling name)
      (hinner : DropsNulls inner vs vs') (h : DropsNulls fields ms ms') :
      DropsNulls fields ((name, .object vs) :: ms) ((name, .object vs') :: ms')

/-- Two objects of a shape differ in one modelled member, which is `null` in the second. -/
inductive Adds : Shape → Json → Json → Prop where
  | object {fields : List (Field × Shape)} {ms ms' : Members} (h : AddsNull fields ms ms') :
      Adds (object fields) (.object ms) (.object ms')

/-! ### Removing nulls one by one -/

/-- Names are not made up when members are removed. -/
theorem DropsNulls.exists_mem (h : DropsNulls fields ms ms') {m : String × Json} (hm : m ∈ ms') :
    m.1 ∈ ms.map Prod.fst := by
  induction h with
  | nil => cases hm
  | keep m' _ ih =>
    rcases List.mem_cons.1 hm with rfl | hm
    · exact List.mem_cons_self
    · exact List.mem_cons_of_mem _ (ih hm)
  | drop _ _ _ ih => exact List.mem_cons_of_mem _ (ih hm)
  | inside _ _ _ _ _ ih =>
    rcases List.mem_cons.1 hm with rfl | hm
    · exact List.mem_cons_self
    · exact List.mem_cons_of_mem _ (ih hm)

/-- **What is removed can be added again, one member after another.** Of the members in front
nothing is removed. -/
theorem DropsNulls.reflTransGen_append (h : DropsNulls fields ms ms') (front : Members)
    (hunique : HasUniqueNames (.object (front ++ ms)))
    (hboth : ¬HoldsBothAmong fields (front ++ ms)) :
    Relation.ReflTransGen (AddsNull fields) (front ++ ms') (front ++ ms) := by
  -- a member that is done with moves to the front
  induction h generalizing front with
  | nil => exact .refl
  | @keep fields ms ms' m _ ih =>
    rw [List.append_cons] at hunique hboth
    rw [List.append_cons front m ms', List.append_cons front m ms]
    exact ih _ hunique hboth
  | @drop fields e name ms ms' he hname h ih =>
    obtain ⟨hnodup, -⟩ := hasUniqueNames_object.1 hunique
    have htwice : ¬e.1.IsTwice (front ++ (name, .null) :: ms) := fun htwice ↦
      hboth (holdsBothAmong_iff.2 ⟨e, he, .inl htwice⟩)
    have hnone := Field.not_isSpelling_of_nodup hnodup htwice hname
    have hadd : AddsNull fields (front ++ ms') (front ++ (name, .null) :: ms') := by
      refine .here he hname fun m hm ↦ hnone m.1 ?_
      rw [List.map_append]
      rcases List.mem_append.1 hm with hm | hm
      · exact List.mem_append_left _ (List.mem_map_of_mem hm)
      · exact List.mem_append_right _ (h.exists_mem hm)
    rw [List.append_cons] at hunique hboth hadd
    rw [List.append_cons front (name, .null) ms]
    exact .head hadd (ih _ hunique hboth)
  | @inside fields inner f name vs vs' ms ms' he hname hinner h ihinner ih =>
    obtain ⟨-, hvalues⟩ := hasUniqueNames_object.1 hunique
    have hmem : (name, Json.object vs) ∈ front ++ (name, .object vs) :: ms :=
      List.mem_append_right _ List.mem_cons_self
    have hinnerBoth : ¬HoldsBothAmong inner vs := fun hinnerBoth ↦ by
      refine hboth (holdsBothAmong_iff.2 ⟨_, he, .inr ⟨_, hmem, hname, ?_⟩⟩)
      rw [HoldsBoth]
      exact ⟨vs, rfl, hinnerBoth⟩
    have hlift : Relation.ReflTransGen (AddsNull fields) (front ++ (name, .object vs') :: ms')
        (front ++ (name, .object vs) :: ms') :=
      (ihinner [] (hvalues _ hmem) hinnerBoth).lift
        (fun vs ↦ front ++ (name, Json.object vs) :: ms') fun _ _ h ↦ .inside he hname h
    rw [List.append_cons front (name, .object vs)] at hunique hboth hlift
    rw [List.append_cons front (name, .object vs) ms]
    exact hlift.trans (ih _ hunique hboth)

theorem DropsNulls.reflTransGen (h : DropsNulls fields ms ms')
    (hunique : HasUniqueNames (.object ms)) (hboth : ¬HoldsBothAmong fields ms) :
    Relation.ReflTransGen (AddsNull fields) ms' ms :=
  h.reflTransGen_append [] hunique hboth

end Shape

/-! ### Decoders -/

variable {α β : Type} {decode : Decoder α} {shape : Shape} {fields : List (Field × Shape)}
  {ms ms' : Members} {place : Nat}

/-- A decoder makes the same of an object, whether a modelled member is `null` or missing. -/
def IgnoresNulls (decode : Decoder α) (shape : Shape) : Prop :=
  ∀ v v', shape.Adds v v' → (decode v).toOption = (decode v').toOption

/-- Where nothing is modelled there is nothing to add. -/
theorem ignoresNulls_free (decode : Decoder α) : IgnoresNulls decode .free :=
  nofun

/-- A decoder that refuses objects has nothing to do with members. -/
theorem ignoresNulls_of_object (h : ∀ ms, (decode (.object ms)).toOption = none) (shape : Shape) :
    IgnoresNulls decode shape := by
  rintro _ _ ⟨-⟩
  rw [h, h]

theorem IgnoresNulls.map (h : IgnoresNulls decode shape) (f : α → β) :
    IgnoresNulls (fun v ↦ (decode v).map f) shape := by
  intro v v' hv
  rw [toOption_map, toOption_map, h v v' hv]

theorem IgnoresNulls.decodeOption (h : IgnoresNulls decode shape) :
    IgnoresNulls (decodeOption decode) shape := by
  rintro _ _ ⟨hms⟩
  rw [decodeOption_object, decodeOption_object, toOption_map, toOption_map, h _ _ (.object hms)]

theorem IgnoresNulls.orDefault (h : IgnoresNulls decode shape) (default : α) :
    IgnoresNulls (orDefault default decode) shape :=
  h.decodeOption.map _

theorem IgnoresNulls.decodeEither {first second : Decoder α} (hfirst : IgnoresNulls first shape)
    (hsecond : IgnoresNulls second shape) (type : String) :
    IgnoresNulls (decodeEither type first second) shape := by
  intro v v' hv
  rw [toOption_decodeEither, toOption_decodeEither, hfirst v v' hv, hsecond v v' hv]

/-- An object with any set of null members removed is decoded alike, if no name stands twice in it
and no modelled member is spelled both ways. -/
theorem IgnoresNulls.toOption_eq_of_dropsNulls (h : IgnoresNulls decode (.object fields))
    (hms : Shape.DropsNulls fields ms ms') (hunique : HasUniqueNames (.object ms))
    (hboth : ¬Shape.HoldsBothAmong fields ms) :
    (decode (.object ms)).toOption = (decode (.object ms')).toOption := by
  have hadds := hms.reflTransGen hunique hboth
  clear hms hunique hboth
  induction hadds with
  | refl => rfl
  | tail _ hadds ih => exact (h _ _ (.object hadds)).symm.trans ih

/-! ### Fields -/

/-- A member that is added is another one for no field, or the only one for its own; or it is inside
the value of one. -/
theorem AreCapitalised.occurrences_of_addsNull (h : AreCapitalised fields) {e : Field × Shape}
    (he : e ∈ fields) (hms : Shape.AddsNull fields ms ms') :
    e.1.occurrences ms' = e.1.occurrences ms ∨
      (e.1.occurrences ms = [] ∧ e.1.occurrences ms' = [.null]) ∨
      ∃ vs v v' ws, e.1.occurrences ms = vs ++ v :: ws ∧ e.1.occurrences ms' = vs ++ v' :: ws ∧
        e.2.Adds v v' := by
  cases hms with
  | @here _ e' name front back he' hname hnone =>
    rw [← h.spells_iff he'] at hname
    rcases Field.eq_or_apart h.apart he' he with rfl | hapart
    · have hothers : ∀ m ∈ front ++ back, e'.1.spells m.1 = false := fun m hm ↦
        Bool.eq_false_iff.2 fun hspells ↦ hnone m hm ((h.spells_iff he').1 hspells)
      exact .inr (.inl ⟨Field.occurrences_of_forall hothers,
        Field.occurrences_of_only hname hothers⟩)
    · rw [Field.occurrences_append, Field.occurrences_append, Field.occurrences_cons,
        hapart.spells_eq_false hname]
      exact .inl rfl
  | @inside _ inner f name front back vs vs' he' hname hvs =>
    rw [← h.spells_iff he'] at hname
    simp only [Field.occurrences_append, Field.occurrences_cons]
    rcases Field.eq_or_apart h.apart he' he with rfl | hapart
    · rw [if_pos hname, if_pos hname]
      exact .inr (.inr ⟨_, _, _, _, rfl, rfl, .object hvs⟩)
    · rw [hapart.spells_eq_false hname]
      exact .inl rfl

/-- A member that is added as `null` makes no difference to what is made of its field, if that makes
no difference between a missing value and the one that `null` stands for. -/
theorem AreCapitalised.map_field_of_addsNull (h : AreCapitalised fields) {e : Field × Shape}
    (he : e ∈ fields) (hms : Shape.AddsNull fields ms ms') {default : α}
    (hnull : decode .null = .ok default) (hdecode : IgnoresNulls decode e.2) {g : Option α → β}
    (hg : g (some default) = g none) (place : Nat) :
    (((Source.members ms).field place e.1 decode).map g).toOption =
      (((Source.members ms').field place e.1 decode).map g).toOption := by
  rcases h.occurrences_of_addsNull he hms with
    hsame | ⟨hnil, hone⟩ | ⟨vs, v, v', ws, hv, hv', hadds⟩
  · rw [Source.field, Source.field, hsame]
  · rw [field_of_occurrences_nil hnil, field_of_occurrences_singleton hone, hnull]
    exact congrArg some hg.symm
  · rcases vs with _ | ⟨w, vs⟩
    · rcases ws with _ | ⟨w, ws⟩
      · rw [field_of_occurrences_singleton hv, field_of_occurrences_singleton hv', toOption_map,
          toOption_map, toOption_map, toOption_map, hdecode v v' hadds]
      · rw [Source.field, Source.field, hv, hv']
        rfl
    · rw [Source.field, Source.field, hv, hv']
      cases vs <;> rfl

/-! ### Records -/

/-- Two sources give the fields of an object the same, but that one gives a field the value that
`null` stands for where the other gives it none. -/
def Source.AgreeBarNulls (fields : List (Field × Shape)) (s s' : Source) : Prop :=
  ∀ e ∈ fields, ∀ {β γ : Type} {decode : Decoder β} {default : β} {g : Option β → γ},
    decode .null = .ok default → IgnoresNulls decode e.2 → g (some default) = g none →
    ∀ place, ((s.field place e.1 decode).map g).toOption =
      ((s'.field place e.1 decode).map g).toOption

namespace Record

variable {record : Record α} {f : Field}

/-- A record of the fields of a shape gives a field that is `null` the value of a missing one. -/
structure TakesNulls (record : Record α) (fields : List (Field × Shape)) : Prop where
  isRecord : record.Fields fields
  build : ∀ s s', Source.AgreeBarNulls fields s s' →
    (record.build s).toOption = (record.build s').toOption

theorem TakesNulls.ofMembers (h : record.TakesNulls fields) (hms : Shape.AddsNull fields ms ms') :
    (record.ofMembers ms).toOption = (record.ofMembers ms').toOption := by
  rw [h.isRecord.asks.toOption_ofMembers, h.isRecord.asks.toOption_ofMembers]
  exact h.build _ _ fun e he _ _ _ _ _ hnull hdecode hg place ↦
    h.isRecord.capitalised.map_field_of_addsNull he hms hnull hdecode hg place

/-- A closed record ignores nulls. -/
theorem TakesNulls.ignoresNulls_decode (h : record.TakesNulls fields) :
    IgnoresNulls record.decode (.object fields) := by
  rintro _ _ ⟨hms⟩
  exact h.ofMembers hms

/-- What is added is no other member. -/
theorem Fields.others_of_addsNull (h : record.Fields fields)
    (hms : Shape.AddsNull fields ms ms') : record.others ms = record.others ms' := by
  have hspelled : ∀ e ∈ fields, ∀ name, e.1.IsSpelling name → ∀ v : Json,
      record.others [(name, v)] = [] := by
    intro e he name hname v
    obtain ⟨e', he', heq, -⟩ := h.exists_layout he
    have hany : (record.layout.any fun e ↦ e.1.spells name) = true := by
      refine List.any_eq_true.2 ⟨e', he', ?_⟩
      rw [heq]
      exact (h.capitalised.spells_iff he).2 hname
    refine List.filter_eq_nil_iff.2 fun m hm ↦ ?_
    rw [List.mem_singleton.1 hm, hany]
    exact Bool.false_ne_true
  have hsplit : ∀ front back : Members,
      record.others (front ++ back) = record.others front ++ record.others back :=
    fun _ _ ↦ List.filter_append ..
  cases hms with
  | @here _ e name front back he hname _ =>
    rw [List.append_cons, hsplit, hsplit, hsplit, hspelled e he name hname, List.append_nil]
  | @inside _ inner f name front back vs vs' he hname _ =>
    rw [List.append_cons front (name, .object vs), List.append_cons front (name, .object vs'),
      hsplit, hsplit, hsplit _ back, hsplit, hspelled _ he name hname, hspelled _ he name hname]

/-- So does a record with other members beside it. -/
theorem TakesNulls.ignoresNulls_decodeOpen (h : record.TakesNulls fields) :
    IgnoresNulls record.decodeOpen (.object fields) := by
  rintro _ _ ⟨hms⟩
  rw [toOption_decodeOpen, toOption_decodeOpen, h.ofMembers hms, h.isRecord.others_of_addsNull hms]

/-- A record of one field. -/
theorem takesNulls_one {first : Decoder β} {default : β} {mk : Option β → α}
    (hrecord : record.Fields [(f, shape)])
    (hbuild : ∀ s, record.build s = (s.field 0 f first).bind fun b ↦ .ok (mk b))
    (hnull : first .null = .ok default) (hmk : mk (some default) = mk none)
    (hfirst : IgnoresNulls first shape) : record.TakesNulls [(f, shape)] where
  isRecord := hrecord
  build s s' h := by
    have hmap : ∀ s, record.build s = (s.field 0 f first).map mk := fun s ↦ by
      rw [hbuild]
      cases s.field 0 f first <;> rfl
    rw [hmap, hmap]
    exact h (f, shape) List.mem_cons_self hnull hfirst hmk 0

/-- A record of two fields. -/
theorem takesNulls_two {g : Field} {shape' : Shape} {γ : Type} {first : Decoder β}
    {second : Decoder γ} {default : β} {default' : γ} {mk : Option β → Option γ → α}
    (hrecord : record.Fields [(f, shape), (g, shape')])
    (hbuild : ∀ s, record.build s = (s.field 0 f first).bind fun b ↦
      (s.field 1 g second).bind fun c ↦ .ok (mk b c))
    (hnull : first .null = .ok default) (hnull' : second .null = .ok default')
    (hmk : mk (some default) = mk none) (hmk' : ∀ b, mk b (some default') = mk b none)
    (hfirst : IgnoresNulls first shape) (hsecond : IgnoresNulls second shape') :
    record.TakesNulls [(f, shape), (g, shape')] where
  isRecord := hrecord
  build s s' h := by
    have hsplit : ∀ s, (record.build s).toOption = ((s.field 0 f first).map mk).toOption.bind
        fun k ↦ ((s.field 1 g second).map k).toOption := fun s ↦ by
      rw [hbuild]
      cases s.field 0 f first with
      | error e => rfl
      | ok b => cases s.field 1 g second <;> rfl
    rw [hsplit, hsplit, h (f, shape) List.mem_cons_self hnull hfirst hmk 0]
    refine Option.bind_congr fun k hk ↦ ?_
    obtain ⟨b, -, rfl⟩ := map_eq_ok_iff.1 (toOption_eq_some_iff.1 hk)
    exact h (g, shape') (List.mem_cons_of_mem _ List.mem_cons_self) hnull' hsecond (hmk' b) 1

end Record

end LspClient.Json
