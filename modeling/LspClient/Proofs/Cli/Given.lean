import LspClient.Proofs.Cli.Part
import Mathlib.Data.List.Induction

/-!
# What the items of a part give

A part of a command line is taken item by item, but what it gives does not depend on their order,
save for that of the arguments. An option has the value of the item that names it
(`Given.get_of_ofItems`), and there is at most one such item; how often a flag is raised, and which
arguments there are, is told by the items alone. Which items are taken is told by them in the same
way (`Given.exists_ofItems_iff`): each is sound by itself, no two clash, and there is room for the
arguments.
-/

namespace LspClient.Cli

/-! ### Values of options -/

/-- The values of an option. -/
def ValueOption.Carrier : ValueOption → Type
  | host | path | stdio | rootPath => String
  | port => UInt16
  | timeout => Nat
  | idStyle => IdStyle
  | paramsStyle => ParamsStyle
  | framing => Transport.Framing
  | processId => UInt32

/-- The value of an option that a text stands for. -/
def ValueOption.read : (o : ValueOption) → String → Except Refusal o.Carrier
  | host, s | path, s | stdio, s | rootPath, s => .ok s
  | port, s => readPort s
  | timeout, s => readTimeout s
  | idStyle, s => readIdStyle s
  | paramsStyle, s => readParamsStyle s
  | framing, s => readFraming s
  | processId, s => readProcessId s

namespace Given

variable {place : Place} {g g' : Given} {o : ValueOption} {a : o.Carrier} {item : Item}
  {items : List Item}

/-- The value that is given to an option. -/
def get (g : Given) : (o : ValueOption) → Option o.Carrier
  | .host => g.host
  | .port => g.port
  | .path => g.path
  | .timeout => g.timeout
  | .idStyle => g.idStyle
  | .paramsStyle => g.paramsStyle
  | .framing => g.framing
  | .stdio => g.stdio
  | .processId => g.processId
  | .rootPath => g.rootPath

/-- The same with another value for an option, or none. -/
def put (g : Given) : (o : ValueOption) → Option o.Carrier → Given
  | .host, x => { g with host := x }
  | .port, x => { g with port := x }
  | .path, x => { g with path := x }
  | .timeout, x => { g with timeout := x }
  | .idStyle, x => { g with idStyle := x }
  | .paramsStyle, x => { g with paramsStyle := x }
  | .framing, x => { g with framing := x }
  | .stdio, x => { g with stdio := x }
  | .processId, x => { g with processId := x }
  | .rootPath, x => { g with rootPath := x }

/-- An option that was put has the value that was put. -/
theorem get_put_self (g : Given) (o : ValueOption) (x : Option o.Carrier) :
    (g.put o x).get o = x := by
  cases o <;> rfl

/-- Putting one option leaves the others as they are. -/
theorem get_put_of_ne {o o' : ValueOption} (h : o' ≠ o) (g : Given) (x : Option o.Carrier) :
    (g.put o x).get o' = g.get o' := by
  cases o <;> cases o' <;> first | rfl | exact absurd rfl h

/-- Values are not flags or arguments. -/
theorem put_frame (g : Given) (o : ValueOption) (x : Option o.Carrier) :
    (g.put o x).tcp = g.tcp ∧ (g.put o x).debug = g.debug ∧
      (g.put o x).arguments = g.arguments := by
  cases o <;> exact ⟨rfl, rfl, rfl⟩

theorem set_eq (g : Given) (o : ValueOption) (s : String) :
    g.set o s = (once (g.get o) (o.read s)).map (g.put o) := by
  cases o <;> exact bind_pure_comp _ _

/-- An option is set if it has no value yet and the text is one. -/
theorem set_eq_ok_iff {s : String} :
    g.set o s = .ok g' ↔ g.get o = none ∧ ∃ a, o.read s = .ok a ∧ g' = g.put o (some a) := by
  rw [set_eq, once.eq_def]
  cases g.get o with
  | some a => simp [Except.map]
  | none =>
    cases o.read s with
    | error e => simp [Except.map]
    | ok a => simp [Except.map, eq_comm]

theorem exists_set_iff {s : String} :
    (∃ g', g.set o s = .ok g') ↔ g.get o = none ∧ ∃ a, o.read s = .ok a := by
  simp only [set_eq_ok_iff]
  constructor
  · rintro ⟨_, hnone, a, ha, -⟩
    exact ⟨hnone, a, ha⟩
  · rintro ⟨hnone, a, ha⟩
    exact ⟨_, hnone, a, ha, rfl⟩

/-- After one was set, the value of an option is the one that was set or the one it had. -/
theorem get_of_set {s : String} {o o' : ValueOption} {a : o'.Carrier} (h : g.set o s = .ok g') :
    g'.get o' = some a ↔ g.get o' = some a ∨ o = o' ∧ o'.read s = .ok a := by
  obtain ⟨hnone, b, hb, rfl⟩ := set_eq_ok_iff.1 h
  by_cases ho : o' = o
  · subst ho
    rw [get_put_self, hnone, hb]
    simp
  · rw [get_put_of_ne ho]
    simp [Ne.symm ho]

/-! ### Items, one after another -/

/-- A flag leaves all values as they are. -/
theorem get_of_raise {f : Flag} (h : g.raise f = .ok g') (o : ValueOption) :
    g'.get o = g.get o := by
  cases f with
  | tcp =>
    rw [raise] at h
    split at h
    · cases h
    · cases h
      cases o <;> rfl
  | debug =>
    cases h
    cases o <;> rfl
  | help | version => cases h

/-- An argument leaves all values as they are. -/
theorem get_of_argument {s : String} (h : g.take place (.argument s) = .ok g') (o : ValueOption) :
    g'.get o = g.get o := by
  rw [take] at h
  split at h
  · cases h
    cases o <;> rfl
  · cases h

/-- An option has the value that it had before, or that of the item that is taken. -/
theorem get_of_take (h : g.take place item = .ok g') :
    g'.get o = some a ↔ g.get o = some a ∨ ∃ s, item = .value o s ∧ o.read s = .ok a := by
  cases item with
  | value o' s =>
    rw [get_of_set h]
    refine or_congr_right ⟨?_, ?_⟩
    · rintro ⟨rfl, hs⟩
      exact ⟨s, rfl, hs⟩
    · rintro ⟨s, heq, hs⟩
      cases heq
      exact ⟨rfl, hs⟩
  | flag f =>
    rw [get_of_raise h]
    simp
  | argument s =>
    rw [get_of_argument h]
    simp

/-- How often a flag is raised that is counted. -/
def counted (n : Nat) : Option Nat :=
  if n = 0 then none else some (min greatestDebug n)

/-- A count does not go beyond the greatest. -/
theorem getD_counted (n : Nat) : (counted n).getD 0 = min greatestDebug n := by
  rw [counted]
  split
  · rename_i h
    rw [h]
    rfl
  · rfl

theorem counted_succ (n : Nat) :
    counted (n + 1) = some (min greatestDebug ((counted n).getD 0 + 1)) := by
  rw [getD_counted, counted, if_neg n.succ_ne_zero]
  congr 1
  omega

end Given

/-- The argument that an item is. -/
def Item.argument? : Item → Option String
  | argument s => some s
  | _ => none

theorem Item.arguments_concat {item : Item} (h : item.argument? = none) (items : List Item) :
    (items ++ [item]).filterMap argument? = items.filterMap argument? := by
  rw [List.filterMap_append, List.filterMap_cons_none h, List.filterMap_nil, List.append_nil]

namespace ValueOption

variable {o : ValueOption} {items : List Item} {s : String}

/-- An option has a value among some items. -/
def IsAmong (o : ValueOption) (items : List Item) : Prop :=
  ∃ s, .value o s ∈ items

@[simp]
theorem not_isAmong_nil : ¬o.IsAmong [] := by
  simp [IsAmong]

@[simp]
theorem isAmong_flag_cons {f : Flag} : o.IsAmong (.flag f :: items) ↔ o.IsAmong items := by
  simp [IsAmong]

/-- An option is among items behind a value, if that is its own or it is among the others. -/
@[simp]
theorem isAmong_value_cons {o' : ValueOption} :
    o.IsAmong (.value o' s :: items) ↔ o' = o ∨ o.IsAmong items := by
  simp [IsAmong, exists_or, eq_comm]

@[simp]
theorem isAmong_argument_cons : o.IsAmong (.argument s :: items) ↔ o.IsAmong items := by
  simp [IsAmong]

/-- An option is among two lists of items, if it is among one of them. -/
@[simp]
theorem isAmong_append {items' : List Item} :
    o.IsAmong (items ++ items') ↔ o.IsAmong items ∨ o.IsAmong items' := by
  simp only [IsAmong, List.mem_append, exists_or]

end ValueOption

/-- An item that is taken if nothing before it stands against it. -/
def Item.IsSound : Item → Prop
  | flag f => f = .tcp ∨ f = .debug
  | value o s => ∃ a, o.read s = .ok a
  | argument _ => True

/-- Two items that are not taken together. -/
inductive Item.Clash : Item → Item → Prop where
  | flag : Clash (.flag .tcp) (.flag .tcp)
  | value (o : ValueOption) (s s' : String) : Clash (.value o s) (.value o s')

theorem Item.Clash.symm {a b : Item} (h : a.Clash b) : b.Clash a := by
  cases h with
  | flag => exact .flag
  | value o s s' => exact .value o s' s

instance : Std.Symm fun a b : Item ↦ ¬a.Clash b where
  symm _ _ h hclash := h hclash.symm

/-- Items that are taken in a part of the line. -/
structure Fits (place : Place) (items : List Item) : Prop where
  sound : ∀ item ∈ items, item.IsSound
  /-- No two of the items clash. -/
  apart : items.Pairwise fun a b ↦ ¬a.Clash b
  /-- There is room for the arguments. -/
  room : (items.filterMap Item.argument?).length ≤ place.capacity

namespace Given

variable {place : Place} {g g' : Given} {o : ValueOption} {a : o.Carrier} {item : Item}
  {items : List Item}

/-- Items are taken if all but the last are, and then the last one. -/
theorem ofItems_concat_eq_ok_iff : ofItems place (items ++ [item]) = .ok g' ↔
    ∃ g, ofItems place items = .ok g ∧ g.take place item = .ok g' := by
  simp only [ofItems, Progress.foldlM_append_eq_ok_iff, List.foldlM_cons, List.foldlM_nil,
    bind_pure]

/-- What some items bring about and nothing takes back holds behind a part exactly if it held before
it or one of these items is there. -/
theorem iff_of_foldlM {P : Given → Prop} {Q : Item → Prop}
    (hstep : ∀ {g g' : Given} {item : Item}, g.take place item = .ok g' → (P g' ↔ P g ∨ Q item))
    (h : items.foldlM (Given.take place) g = .ok g') : P g' ↔ P g ∨ ∃ item ∈ items, Q item := by
  induction items generalizing g with
  | nil =>
    cases h
    simp
  | cons item items ih =>
    obtain ⟨g₁, hitem, hitems⟩ := Progress.foldlM_cons_eq_ok_iff.1 h
    simp only [ih hitems, hstep hitem, or_assoc, List.mem_cons, exists_eq_or_imp]

/-- An option has the value of the item that names it. -/
theorem get_of_ofItems (h : ofItems place items = .ok g) :
    g.get o = some a ↔ ∃ s, .value o s ∈ items ∧ o.read s = .ok a := by
  have hempty : ({} : Given).get o ≠ some a := by
    cases o <;> nofun
  rw [iff_of_foldlM get_of_take h, or_iff_right hempty]
  constructor
  · rintro ⟨_, hmem, s, rfl, hs⟩
    exact ⟨s, hmem, hs⟩
  · rintro ⟨s, hmem, hs⟩
    exact ⟨_, hmem, s, rfl, hs⟩

/-- An option that was not among the items has no value. -/
theorem get_eq_none_iff (h : ofItems place items = .ok g)
    (hsound : ∀ item ∈ items, item.IsSound) : g.get o = none ↔ ∀ s, .value o s ∉ items := by
  constructor
  · intro hnone s hmem
    obtain ⟨a, ha⟩ := hsound _ hmem
    rw [(get_of_ofItems h).2 ⟨s, hmem, ha⟩] at hnone
    cases hnone
  · intro hall
    refine Option.eq_none_iff_forall_ne_some.2 fun a ha ↦ ?_
    obtain ⟨s, hmem, -⟩ := (get_of_ofItems h).1 ha
    exact hall s hmem

/-- What one item adds to the flags and the arguments. -/
theorem frame_of_take (h : g.take place item = .ok g') :
    (g'.tcp = true ↔ g.tcp = true ∨ item = .flag .tcp) ∧
    (∀ n, g.debug = counted n → g'.debug = counted (n + [item].count (.flag .debug))) ∧
    g'.arguments = g.arguments ++ [item].filterMap Item.argument? := by
  cases item with
  | flag f =>
    cases f with
    | tcp =>
      rw [take, raise] at h
      split at h
      · cases h
      · cases h
        simp [Item.argument?]
    | debug =>
      cases h
      refine ⟨by simp, fun n hn ↦ ?_, by simp [Item.argument?]⟩
      rw [List.count_singleton_self, counted_succ, ← hn]
    | help | version => cases h
  | value o s =>
    obtain ⟨-, a, -, rfl⟩ := set_eq_ok_iff.1 h
    obtain ⟨htcp, hdebug, harguments⟩ := put_frame g o (some a)
    rw [htcp, hdebug, harguments]
    simp [Item.argument?]
  | argument s =>
    rw [take] at h
    split at h
    · cases h
      simp [Item.argument?]
    · cases h

/-- A connection over TCP is asked for if the flag is among the items. -/
theorem tcp_of_ofItems (h : ofItems place items = .ok g) :
    g.tcp = true ↔ .flag .tcp ∈ items := by
  rw [iff_of_foldlM (fun h ↦ (frame_of_take h).1) h]
  simp

theorem debug_of_ofItems (h : ofItems place items = .ok g) :
    g.debug = counted (items.count (.flag .debug)) := by
  induction items using List.reverseRecOn generalizing g with
  | nil =>
    cases h
    rfl
  | append_singleton items item ih =>
    obtain ⟨g₁, h₁, h⟩ := ofItems_concat_eq_ok_iff.1 h
    rw [List.count_append]
    exact (frame_of_take h).2.1 _ (ih h₁)

/-- The arguments that are given are those among the items, in order. -/
theorem arguments_of_ofItems (h : ofItems place items = .ok g) :
    g.arguments = items.filterMap Item.argument? := by
  induction items using List.reverseRecOn generalizing g with
  | nil =>
    cases h
    rfl
  | append_singleton items item ih =>
    obtain ⟨g₁, h₁, h⟩ := ofItems_concat_eq_ok_iff.1 h
    rw [List.filterMap_append, ← ih h₁]
    exact (frame_of_take h).2.2

/-- An item is taken behind others if it is sound, none of them clashes with it, and there is room
for it. -/
theorem exists_take_iff (hg : ofItems place items = .ok g)
    (hsound : ∀ item ∈ items, item.IsSound)
    (hroom : (items.filterMap Item.argument?).length ≤ place.capacity) :
    (∃ g', g.take place item = .ok g') ↔
      item.IsSound ∧ (∀ b ∈ items, ¬b.Clash item) ∧
        ((items ++ [item]).filterMap Item.argument?).length ≤ place.capacity := by
  cases item with
  | flag f =>
    rw [Item.arguments_concat rfl, and_iff_left hroom]
    simp only [Item.IsSound, take]
    cases f with
    | tcp =>
      have hclash : (∀ b ∈ items, ¬b.Clash (.flag .tcp)) ↔ g.tcp = false := by
        rw [← Bool.not_eq_true, tcp_of_ofItems hg]
        refine ⟨fun h hmem ↦ h _ hmem .flag, ?_⟩
        rintro h _ hmem ⟨⟩
        exact h hmem
      rw [hclash, raise]
      cases g.tcp <;> simp
    | debug =>
      have hclash : ∀ b ∈ items, ¬b.Clash (.flag .debug) := by rintro _ - ⟨⟩
      simp [raise, and_iff_left hclash]
    | help | version => simp [raise]
  | value o s =>
    have hclash : (∀ b ∈ items, ¬b.Clash (.value o s)) ↔ g.get o = none := by
      rw [get_eq_none_iff hg hsound]
      refine ⟨fun h s' hmem ↦ h _ hmem (.value o s' s), ?_⟩
      rintro h _ hmem ⟨⟩
      exact h _ hmem
    rw [Item.arguments_concat rfl, and_iff_left hroom, hclash, and_comm]
    exact exists_set_iff
  | argument s =>
    have hclash : ∀ b ∈ items, ¬b.Clash (.argument s) := by rintro _ - ⟨⟩
    have hlength : ((items ++ [Item.argument s]).filterMap Item.argument?).length =
        g.arguments.length + 1 := by
      simp [Item.argument?, arguments_of_ofItems hg]
    simp only [take, Item.IsSound, true_and, hlength]
    rw [and_iff_right hclash]
    split <;> simp <;> omega

/-- **Which items are taken.** -/
theorem exists_ofItems_iff : (∃ g, ofItems place items = .ok g) ↔ Fits place items := by
  induction items using List.reverseRecOn with
  | nil => exact ⟨fun _ ↦ ⟨nofun, .nil, Nat.zero_le _⟩, fun _ ↦ ⟨{}, rfl⟩⟩
  | append_singleton items item ih =>
    simp only [ofItems_concat_eq_ok_iff]
    constructor
    · rintro ⟨g', g, hg, hg'⟩
      have hfits := ih.1 ⟨g, hg⟩
      obtain ⟨hitem, hclash, hroom⟩ := (exists_take_iff hg hfits.sound hfits.room).1 ⟨g', hg'⟩
      exact {
        sound := List.forall_mem_append.2 ⟨hfits.sound, List.forall_mem_singleton.2 hitem⟩
        apart := List.pairwise_append.2 ⟨hfits.apart, List.pairwise_singleton .., fun a ha b hb ↦
          List.mem_singleton.1 hb ▸ hclash a ha⟩
        room := hroom }
    · intro hfits
      obtain ⟨hsound, hitem⟩ := List.forall_mem_append.1 hfits.sound
      obtain ⟨hapart, -, hclash⟩ := List.pairwise_append.1 hfits.apart
      have hroom : (items.filterMap Item.argument?).length ≤ place.capacity := by
        refine Nat.le_trans ?_ hfits.room
        rw [List.filterMap_append, List.length_append]
        exact Nat.le_add_right ..
      obtain ⟨g, hg⟩ := ih.2 ⟨hsound, hapart, hroom⟩
      obtain ⟨g', hg'⟩ := (exists_take_iff hg hsound hroom).2
        ⟨hitem item List.mem_cons_self, fun b hb ↦ hclash b hb item List.mem_cons_self, hfits.room⟩
      exact ⟨g', g, hg, hg'⟩

/-- An option has a value if it has one among the items that are taken. -/
theorem get_ne_none_iff (h : ofItems place items = .ok g) : g.get o ≠ none ↔ o.IsAmong items := by
  rw [ne_eq, get_eq_none_iff h (exists_ofItems_iff.1 ⟨g, h⟩).sound, ValueOption.IsAmong]
  simp

end Given

end LspClient.Cli
