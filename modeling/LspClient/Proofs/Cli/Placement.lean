import LspClient.Proofs.Cli.Environment
import LspClient.Proofs.Cli.Transports
import Mathlib.Data.List.Basic
import Mathlib.Data.List.Pairwise

/-!
# Options on either side of the command

The options that hold for every command may stand before the command or behind it. Each part of the
line is completed by itself before the two are put together, so it is not plain that the place of an
option does not matter. It does not (`parse_spread`): the options that hold are those of both parts
together (`Globals.Says`), in any order, and each is the value on the line, or else the one in the
environment, or else the default.
-/

namespace LspClient.Cli

/-! ### Options for every command -/

/-- Whether an option holds for every command. -/
def ValueOption.isGlobal : ValueOption → Bool
  | processId | rootPath => false
  | _ => true

/-- Whether an item is an option for every command. The others belong to the command. -/
def Item.isGlobal : Item → Bool
  | flag _ => true
  | value o _ => o.isGlobal
  | argument _ => false

/-- Options for every command with values that they take, none of them given twice but the one that
is counted, and with one transport at most. -/
structure IsSelection (globals : List Item) : Prop where
  global : ∀ item ∈ globals, item.isGlobal = true
  sound : ∀ item ∈ globals, item.IsSound
  apart : globals.Pairwise fun a b ↦ ¬a.Clash b
  oneTransport : ¬(AsksTcp globals ∧ AsksStdio globals)

/-- What belongs to a command is taken and is all that it needs. -/
structure Suffices (name : CommandName) (own : List Item) : Prop where
  fits : Fits (.within name) own
  arguments : name ≠ .handshake → ∃ s, .argument s ∈ own

/-- Each of the options for every command is on one side or the other, in any order. The one that is
counted is on one side only. -/
structure Divided (globals items items' : List Item) : Prop where
  perm : (items ++ items'.filter Item.isGlobal).Perm globals
  debug : .flag .debug ∉ items ∨ .flag .debug ∉ items'

/-- A line with a command, with what belongs to the command in order, and with options for every
command on either side of it. -/
def Spread (name : CommandName) (own globals : List Item) (args : List String) : Prop :=
  ∃ items items', Line args items (some (name, items')) ∧
    items'.filter (!·.isGlobal) = own ∧ Divided globals items items'

/-- What is set in the environment can be read. -/
structure Environment.IsValid (env : Environment) : Prop where
  port : ∀ s ∈ env.port, ∃ port, readPort s = .ok port
  timeout : ∀ s ∈ env.timeout, ∃ n, readTimeout s = .ok n

/-! ### Values from the line and from the environment -/

/-- The value of an option is the one on the line, or else the one in the environment, or else there
is none. -/
inductive Chosen (globals : List Item) (o : ValueOption) (fallback : Option String) :
    Option o.Carrier → Prop where
  | line {s : String} {a : o.Carrier} (hs : .value o s ∈ globals) (ha : o.read s = .ok a) :
      Chosen globals o fallback (some a)
  | environment {s : String} {a : o.Carrier} (hline : ∀ s, .value o s ∉ globals)
      (hs : fallback = some s) (ha : o.read s = .ok a) : Chosen globals o fallback (some a)
  | none (hline : ∀ s, .value o s ∉ globals) (hs : fallback = .none) :
      Chosen globals o fallback .none

/-- The same for an option that has a default. -/
def Settled (globals : List Item) (o : ValueOption) (fallback : Option String)
    (default a : o.Carrier) : Prop :=
  ∃ x, Chosen globals o fallback x ∧ a = x.getD default

/-- The options that hold, by the options on the line and the environment. -/
structure Globals.Says (env : Environment) (globals : List Item) (g : Globals) : Prop where
  host : Settled globals .host env.host "localhost" g.host
  port : Settled globals .port env.port (9090 : UInt16) g.port
  path : Settled globals .path env.path "/" g.path
  timeout : Chosen globals .timeout env.timeout g.timeout
  idStyle : Settled globals .idStyle none IdStyle.uuid g.idStyle
  paramsStyle : Settled globals .paramsStyle none ParamsStyle.positional g.paramsStyle
  framing : Settled globals .framing none Transport.Framing.contentLength g.framing
  stdio : Chosen globals .stdio none g.stdio
  tcp : g.tcp = true ↔ AsksTcp globals
  debug : g.debug = min Given.greatestDebug (globals.count (.flag .debug))

section

variable {env : Environment} {name : CommandName} {own globals items items' : List Item}
  {o : ValueOption} {fallback : Option String} {top within : Given}

/-- In a selection no option has two values. -/
theorem IsSelection.value_unique (h : IsSelection globals) {s s' : String}
    (hs : .value o s ∈ globals) (hs' : .value o s' ∈ globals) : s = s' := by
  by_contra hne
  exact h.apart.forall hs hs' (by simpa using hne) (.value o s s')

/-- An option is given, or left to its fallback, in one way only. -/
theorem Chosen.unique (h : IsSelection globals) {x y : Option o.Carrier}
    (hx : Chosen globals o fallback x) (hy : Chosen globals o fallback y) : x = y := by
  cases hx with
  | line hs ha =>
    cases hy with
    | line hs' ha' =>
      obtain rfl := h.value_unique hs hs'
      rw [Except.ok.inj (ha.symm.trans ha')]
    | environment hline => exact absurd hs (hline _)
    | none hline => exact absurd hs (hline _)
  | environment hline hs ha =>
    cases hy with
    | line hs' => exact absurd hs' (hline _)
    | environment _ hs' ha' =>
      obtain rfl := Option.some.inj (hs.symm.trans hs')
      rw [Except.ok.inj (ha.symm.trans ha')]
    | none _ hs' => cases hs.symm.trans hs'
  | none hline hs =>
    cases hy with
    | line hs' => exact absurd hs' (hline _)
    | environment _ hs' => cases hs.symm.trans hs'
    | none => rfl

/-- An option is settled in one way only. -/
theorem Settled.unique (h : IsSelection globals) {default a b : o.Carrier}
    (ha : Settled globals o fallback default a) (hb : Settled globals o fallback default b) :
    a = b := by
  obtain ⟨x, hx, rfl⟩ := ha
  obtain ⟨y, hy, rfl⟩ := hb
  rw [hx.unique h hy]

/-- The line and the environment tell all the options that hold. -/
theorem Globals.Says.unique (h : IsSelection globals) {g g' : Globals} (hg : g.Says env globals)
    (hg' : g'.Says env globals) : g = g' := by
  obtain ⟨host, port, path, timeout, idStyle, paramsStyle, framing, tcp, stdio, debug⟩ := g
  obtain ⟨host', port', path', timeout', idStyle', paramsStyle', framing', tcp', stdio',
    debug'⟩ := g'
  obtain rfl : host = host' := hg.host.unique h hg'.host
  obtain rfl : port = port' := hg.port.unique h hg'.port
  obtain rfl : path = path' := hg.path.unique h hg'.path
  obtain rfl : timeout = timeout' := hg.timeout.unique h hg'.timeout
  obtain rfl : idStyle = idStyle' := hg.idStyle.unique h hg'.idStyle
  obtain rfl : paramsStyle = paramsStyle' := hg.paramsStyle.unique h hg'.paramsStyle
  obtain rfl : framing = framing' := hg.framing.unique h hg'.framing
  obtain rfl : tcp = tcp' := Bool.eq_iff_iff.2 (hg.tcp.trans hg'.tcp.symm)
  obtain rfl : stdio = stdio' := hg.stdio.unique h hg'.stdio
  obtain rfl : debug = debug' := hg.debug.trans hg'.debug.symm
  rfl

/-! ### What the two parts give together -/

/-- The global items of a line are those on either side of the command. -/
theorem Divided.mem_iff (hd : Divided globals items items') {item : Item}
    (hglobal : item.isGlobal = true) : item ∈ globals ↔ item ∈ items ∨ item ∈ items' := by
  simp [← hd.perm.mem_iff, hglobal]

theorem Divided.apart (h : IsSelection globals) (hd : Divided globals items items') :
    (items ++ items'.filter Item.isGlobal).Pairwise fun a b ↦ ¬a.Clash b :=
  (hd.perm.pairwise_iff fun hclash h ↦ hclash h.symm).2 h.apart

/-- An option has the value that one of the parts gives it. -/
theorem Divided.get_eq_some_iff (h : IsSelection globals) (hd : Divided globals items items')
    (htop : Given.ofItems .top items = .ok top)
    (hwithin : Given.ofItems (.within name) items' = .ok within) (ho : o.isGlobal = true)
    (a : o.Carrier) : (within.get o).or (top.get o) = some a ↔
      ∃ s, .value o s ∈ globals ∧ o.read s = .ok a := by
  have hmem : ∀ s, Item.value o s ∈ globals ↔ .value o s ∈ items ∨ .value o s ∈ items' :=
    fun s ↦ hd.mem_iff ho
  simp only [Option.or_eq_some_iff, hmem]
  constructor
  · rintro (hget | ⟨-, hget⟩)
    · obtain ⟨s, hs, ha⟩ := (Given.get_of_ofItems hwithin).1 hget
      exact ⟨s, .inr hs, ha⟩
    · obtain ⟨s, hs, ha⟩ := (Given.get_of_ofItems htop).1 hget
      exact ⟨s, .inl hs, ha⟩
  · rintro ⟨s, hs | hs, ha⟩
    · refine .inr ⟨?_, (Given.get_of_ofItems htop).2 ⟨s, hs, ha⟩⟩
      -- a value behind the command would be given twice
      refine Option.eq_none_iff_forall_ne_some.2 fun b hb ↦ ?_
      obtain ⟨s', hs', -⟩ := (Given.get_of_ofItems hwithin).1 hb
      obtain ⟨-, -, hcross⟩ := List.pairwise_append.1 (hd.apart h)
      exact hcross _ hs _ (List.mem_filter.2 ⟨hs', ho⟩) (.value o s s')
    · exact .inl ((Given.get_of_ofItems hwithin).2 ⟨s, hs, ha⟩)

/-- How much information is wanted is told by the flags on both sides together, up to the greatest.
-/
theorem Divided.debug_eq (hd : Divided globals items items')
    (htop : Given.ofItems .top items = .ok top)
    (hwithin : Given.ofItems (.within name) items' = .ok within) :
    (within.debug.or top.debug).getD 0 =
      min Given.greatestDebug (globals.count (.flag .debug)) := by
  have hcount : globals.count (.flag .debug) =
      items.count (.flag .debug) + items'.count (.flag .debug) := by
    rw [← hd.perm.count_eq, List.count_append, List.count_filter rfl]
  rw [Given.debug_of_ofItems htop, Given.debug_of_ofItems hwithin, hcount]
  rcases hd.debug with hnone | hnone
  · rw [List.count_eq_zero_of_not_mem hnone, Nat.zero_add, ← Given.getD_counted]
    exact congrArg (·.getD 0) Option.or_none
  · rw [List.count_eq_zero_of_not_mem hnone, Nat.add_zero, ← Given.getD_counted]
    rfl

/-! ### The environment -/

theorem orElse_ok (given fallback : Option String) :
    orElse given .ok fallback = .ok (given.or fallback) := by
  cases given <;> cases fallback <;> rfl

theorem orElse_none {α : Type} (given : Option α) (read : String → Except Refusal α) :
    orElse given read none = .ok given := by
  cases given <;> rfl

/-- Variables that can be read are no mistake, whatever is given. -/
theorem Environment.IsValid.check (henv : env.IsValid) (g : Given) :
    checkEnvironment env g = .ok () :=
  checkEnvironment_eq_ok_iff.2 (forall_isReadable_iff.2 ⟨fun _ ↦ henv.port, fun _ ↦ henv.timeout⟩)

/-- What comes first is the value on the line. -/
theorem chosen_of_orElse (hsound : ∀ item ∈ globals, item.IsSound) {given x : Option o.Carrier}
    (hgiven : ∀ a, given = some a ↔ ∃ s, .value o s ∈ globals ∧ o.read s = .ok a)
    (h : orElse given o.read fallback = .ok x) : Chosen globals o fallback x := by
  cases given with
  | some a =>
    obtain ⟨s, hs, ha⟩ := (hgiven a).1 rfl
    cases h
    exact .line hs ha
  | none =>
    have hline : ∀ s, .value o s ∉ globals := by
      intro s hs
      obtain ⟨a, ha⟩ := hsound _ hs
      cases (hgiven a).2 ⟨s, hs, ha⟩
    cases fallback with
    | none =>
      cases h
      exact .none hline rfl
    | some s =>
      rw [orElse] at h
      cases hread : o.read s with
      | error e =>
        rw [hread] at h
        cases h
      | ok a =>
        rw [hread] at h
        cases h
        exact .environment hline rfl hread

/-- **The options that hold** are those of both parts together. -/
theorem Divided.exists_merge (h : IsSelection globals) (hd : Divided globals items items')
    (henv : env.IsValid) (htop : Given.ofItems .top items = .ok top)
    (hwithin : Given.ofItems (.within name) items' = .ok within) :
    ∃ g, merge env top within = .ok g ∧ g.Says env globals := by
  have hchosen : ∀ (o : ValueOption), o.isGlobal = true → ∀ {fallback x},
      orElse ((within.get o).or (top.get o)) o.read fallback = .ok x →
        Chosen globals o fallback x :=
    fun o ho _ _ ↦ chosen_of_orElse h.sound (hd.get_eq_some_iff h htop hwithin ho)
  obtain ⟨port, hport⟩ :=
    (exists_orElse_iff (within.port.or top.port) readPort env.port).2 fun _ ↦ henv.port
  obtain ⟨timeout, htimeout⟩ :=
    (exists_orElse_iff (within.timeout.or top.timeout) readTimeout env.timeout).2
      fun _ ↦ henv.timeout
  refine ⟨_, by simp only [merge, hport, htimeout]; rfl, ?_⟩
  exact {
    host := ⟨_, hchosen .host rfl (orElse_ok _ _), rfl⟩
    port := ⟨_, hchosen .port rfl hport, rfl⟩
    path := ⟨_, hchosen .path rfl (orElse_ok _ _), rfl⟩
    timeout := hchosen .timeout rfl htimeout
    idStyle := ⟨_, hchosen .idStyle rfl (orElse_none _ _), rfl⟩
    paramsStyle := ⟨_, hchosen .paramsStyle rfl (orElse_none _ _), rfl⟩
    framing := ⟨_, hchosen .framing rfl (orElse_none _ _), rfl⟩
    stdio := hchosen .stdio rfl (orElse_none _ _)
    tcp := by
      rw [AsksTcp, hd.mem_iff rfl, ← Given.tcp_of_ofItems htop, ← Given.tcp_of_ofItems hwithin,
        or_comm]
      exact Bool.or_eq_true_iff
    debug := hd.debug_eq htop hwithin }

/-! ### What each part takes -/

/-- Items that clash name the same option. -/
theorem Item.Clash.isGlobal_eq {a b : Item} (h : a.Clash b) : a.isGlobal = b.isGlobal := by
  cases h <;> rfl

theorem Item.arguments_of_isGlobal (h : ∀ item ∈ items, item.isGlobal = true) :
    items.filterMap Item.argument? = [] := by
  refine List.filterMap_eq_nil_iff.2 fun item hitem ↦ ?_
  cases item with
  | flag | value => rfl
  | argument => cases h _ hitem

/-- The options for every command leave the arguments as they are. -/
theorem Item.arguments_filter (items : List Item) :
    (items.filter (!·.isGlobal)).filterMap Item.argument? = items.filterMap Item.argument? := by
  rw [List.filterMap_filter]
  refine List.filterMap_congr fun item _ ↦ ?_
  cases item with
  | flag => rfl
  | value => simp [Item.argument?]
  | argument => rfl

/-- What stands before the command is global. -/
theorem Divided.mem_globals (hd : Divided globals items items') {item : Item}
    (hitem : item ∈ items) : item ∈ globals :=
  hd.perm.mem_iff.1 (List.mem_append_left _ hitem)

/-- Options for every command are taken before any command. -/
theorem Divided.fits_top (h : IsSelection globals) (hd : Divided globals items items') :
    Fits .top items where
  sound item hitem := h.sound item (hd.mem_globals hitem)
  apart := (List.pairwise_append.1 (hd.apart h)).1
  room := by
    rw [Item.arguments_of_isGlobal fun item hitem ↦ h.global item (hd.mem_globals hitem)]
    exact Nat.zero_le _

/-- They are taken behind a command exactly if what belongs to the command is. -/
theorem Divided.fits_within_iff (h : IsSelection globals) (hd : Divided globals items items') :
    Fits (.within name) items' ↔ Fits (.within name) (items'.filter (!·.isGlobal)) := by
  constructor
  · intro hfits
    exact {
      sound := fun item hitem ↦ hfits.sound item (List.mem_filter.1 hitem).1
      apart := hfits.apart.sublist List.filter_sublist
      room := by
        rw [Item.arguments_filter]
        exact hfits.room }
  · intro hfits
    have hsplit := List.filter_append_perm Item.isGlobal items'
    exact {
      sound := by
        intro item hitem
        rcases List.mem_append.1 (hsplit.mem_iff.2 hitem) with hitem | hitem
        · exact h.sound item (hd.perm.mem_iff.1 (List.mem_append_right _ hitem))
        · exact hfits.sound item hitem
      apart := by
        refine (hsplit.pairwise_iff fun hclash h ↦ hclash h.symm).1 ?_
        refine List.pairwise_append.2 ⟨(List.pairwise_append.1 (hd.apart h)).2.1, hfits.apart, ?_⟩
        intro a ha b hb hclash
        have hsame := hclash.isGlobal_eq
        rw [(List.mem_filter.1 ha).2, eq_comm] at hsame
        simp [hsame] at hb
      room := by
        rw [← Item.arguments_filter]
        exact hfits.room }

/-- A part is checked if there is no argument missing in it. -/
theorem IsSelection.checked_iff (h : IsSelection globals) (henv : env.IsValid) {place : Place}
    {g : Given} (hg : Given.ofItems place items = .ok g)
    (hitems : ∀ item ∈ items, item.isGlobal = true → item ∈ globals) :
    Checked env place g ↔ lacksArgument place g = false := by
  refine ⟨Checked.arguments, fun harguments ↦ ⟨henv.check g, ?_, harguments⟩⟩
  refine Bool.eq_false_iff.2 fun htwo ↦ h.oneTransport ?_
  obtain ⟨htcp, hstdio⟩ := Bool.and_eq_true_iff.1 htwo
  obtain ⟨s, hs⟩ := (stdio_of_ofItems hg).1 hstdio
  exact ⟨hitems _ ((tcp_of_ofItems hg).1 htcp) rfl, s, hitems _ hs rfl⟩

/-- The arguments of items are those among them. -/
theorem Item.mem_arguments_iff {s : String} :
    s ∈ items.filterMap Item.argument? ↔ .argument s ∈ items := by
  rw [List.mem_filterMap]
  constructor
  · rintro ⟨item, hitem, hs⟩
    cases item with
    | flag | value => cases hs
    | argument =>
      cases hs
      exact hitem
  · exact fun hs ↦ ⟨_, hs, rfl⟩

/-- What is given behind a command is checked by what belongs to the command. -/
theorem Divided.checked_within_iff (h : IsSelection globals) (hd : Divided globals items items')
    (henv : env.IsValid) (hwithin : Given.ofItems (.within name) items' = .ok within) :
    Checked env (.within name) within ↔
      (name ≠ .handshake → ∃ s, .argument s ∈ items'.filter (!·.isGlobal)) := by
  have hitems : ∀ item ∈ items', item.isGlobal = true → item ∈ globals :=
    fun item hitem hglobal ↦ (hd.mem_iff hglobal).2 (.inr hitem)
  have hempty : within.arguments.isEmpty = false ↔
      ∃ s, .argument s ∈ items'.filter (!·.isGlobal) := by
    rw [Given.arguments_of_ofItems hwithin, ← Item.arguments_filter,
      List.isEmpty_eq_false_iff_exists_mem]
    simp only [Item.mem_arguments_iff]
  rw [h.checked_iff henv hwithin hitems]
  cases name with
  | handshake => simp [lacksArgument]
  | call | notify => simpa [lacksArgument] using hempty

/-- The command is the one that its own items make up. -/
theorem command_eq_of_filter
    (hwithin : Given.ofItems (.within name) items' = .ok within) {alone : Given}
    (halone : Given.ofItems (.within name) (items'.filter (!·.isGlobal)) = .ok alone) :
    command name within = command name alone := by
  have hget : ∀ o : ValueOption, o.isGlobal = false → within.get o = alone.get o := by
    intro o ho
    refine Option.ext fun a ↦ ?_
    rw [Given.get_of_ofItems hwithin, Given.get_of_ofItems halone]
    simp [Item.isGlobal, ho]
  have hprocess : within.processId = alone.processId := hget .processId rfl
  have hroot : within.rootPath = alone.rootPath := hget .rootPath rfl
  have harguments : within.arguments = alone.arguments := by
    rw [Given.arguments_of_ofItems hwithin, Given.arguments_of_ofItems halone,
      Item.arguments_filter]
  cases name <;> simp only [command, hprocess, hroot, harguments]

/-! ### Lines -/

/-- **Options may stand on either side of the command.** What is set in the environment can be read,
and the options for every command can be taken together. If what belongs to the command suffices,
then every line with these options asks for the same, wherever they stand: the options that hold are
those of the line, the environment and the defaults, and the command is the one that its own items
make up. Otherwise no such line is carried out. -/
theorem parse_spread (henv : env.IsValid) (h : IsSelection globals) :
    (Suffices name own → ∃ i, i.globals.Says env globals ∧
      (∃ alone, Given.ofItems (.within name) own = .ok alone ∧
        i.command = some (command name alone)) ∧
      ∀ args, Spread name own globals args → parse env args = .ok i) ∧
    ∀ args i, Spread name own globals args → parse env args = .ok i → Suffices name own := by
  constructor
  · rintro ⟨hfits, harguments⟩
    obtain ⟨alone, halone⟩ := Given.exists_ofItems_iff.2 hfits
    -- all the options may stand before the command
    have hbefore : Divided globals globals [] := ⟨by simp, .inr (List.not_mem_nil)⟩
    obtain ⟨top, htop⟩ := Given.exists_ofItems_iff.2 (hbefore.fits_top h)
    have hnothing : Given.ofItems (.within name) [] = .ok {} := rfl
    obtain ⟨g, -, hg⟩ := hbefore.exists_merge h henv htop hnothing
    refine ⟨⟨g, some (command name alone)⟩, hg, ⟨alone, halone, rfl⟩, ?_⟩
    rintro args ⟨items, items', hline, rfl, hd⟩
    obtain ⟨top, htop⟩ := Given.exists_ofItems_iff.2 (hd.fits_top h)
    obtain ⟨within, hwithin⟩ := Given.exists_ofItems_iff.2 ((hd.fits_within_iff h).2 hfits)
    obtain ⟨g', hmerge, hg'⟩ := hd.exists_merge h henv htop hwithin
    obtain rfl := hg.unique h hg'
    refine hline.parse_eq_ok_iff.2 ⟨top, htop, ?_, within, hwithin,
      (hd.checked_within_iff h henv hwithin).2 harguments, hmerge, ?_⟩
    · exact (h.checked_iff henv htop fun item hitem _ ↦ hd.mem_globals hitem).2 rfl
    · rw [← command_eq_of_filter hwithin halone]
      rfl
  · rintro args i ⟨items, items', hline, rfl, hd⟩ hparse
    obtain ⟨top, htop, -, within, hwithin, hchecked, -⟩ := hline.parse_eq_ok_iff.1 hparse
    exact {
      fits := (hd.fits_within_iff h).1 (Given.exists_ofItems_iff.1 ⟨within, hwithin⟩)
      arguments := (hd.checked_within_iff h henv hwithin).1 hchecked }

end

/-! ### Lines with the same options -/

section

variable {place : Place}

theorem word_host : Word place "--host".toList [] (some .host) :=
  @Word.next _ "host".toList _ (by decide) (by cases place <;> rfl)

theorem word_debug : Word place "-d".toList [.flag .debug] none :=
  @Word.letters _ 'd' [] _ _ (by decide) (.flag (by cases place <;> rfl))

theorem word_port : Word place "--port=80".toList [.value .port "80"] none :=
  @Word.attached _ "port".toList "80".toList _ (by decide) (by cases place <;> rfl)

/-- Options for every command, one of them with a value that is spelled like a command. -/
def fewGlobals : List Item :=
  [.value .host "call", .flag .debug, .value .port "80"]

/-- These items are a selection. -/
theorem isSelection_fewGlobals : IsSelection fewGlobals where
  global := by decide
  sound := by
    simp only [fewGlobals, List.forall_mem_cons]
    exact ⟨⟨"call", rfl⟩, .inr rfl, ⟨(80 : UInt16), rfl⟩, nofun⟩
  apart := by
    simp only [fewGlobals, List.pairwise_cons, List.forall_mem_cons]
    exact ⟨⟨nofun, nofun, nofun⟩, ⟨nofun, nofun⟩, nofun, .nil⟩
  oneTransport h := absurd h.1 (show .flag .tcp ∉ fewGlobals by decide)

end

theorem parse_spread_fewGlobals : ∃ i, i.globals.host = "call" ∧ i.globals.port = 80 ∧
    i.globals.debug = 1 ∧ i.command = some (.call "m" none) ∧
    parse { port := some "70" } ["--host", "call", "-d", "call", "--port=80", "m"] = .ok i ∧
    parse { port := some "70" } ["call", "m", "--port=80", "-d", "--host", "call"] = .ok i := by
  have henv : ({ port := some "70" } : Environment).IsValid :=
    ⟨fun s hs ↦ ⟨70, by cases hs; rfl⟩, nofun⟩
  have hown : Suffices .call [.argument "m"] := by
    refine ⟨⟨?_, List.pairwise_singleton .., by decide⟩, fun _ ↦ ⟨"m", List.mem_singleton_self _⟩⟩
    exact List.forall_mem_singleton.2 trivial
  obtain ⟨i, hi, ⟨alone, halone, hcommand⟩, hsame⟩ :=
    (parse_spread henv isSelection_fewGlobals).1 hown
  have hbefore : Part .top ["--host", "call", "-d"] [.value .host "call", .flag .debug] :=
    .wordAndValue word_host rfl (.word word_debug .nil)
  have hafter : Part (.within .call) ["--port=80", "m"] [.value .port "80", .argument "m"] :=
    .word word_port (.argument (by decide) (by decide) .nil)
  have hall : Part (.within .call) ["m", "--port=80", "-d", "--host", "call"]
      [.argument "m", .value .port "80", .flag .debug, .value .host "call"] :=
    .argument (by decide) (by decide)
      (.word word_port (.word word_debug (.wordAndValue word_host rfl .nil)))
  refine ⟨i, ?_, ?_, hi.debug, ?_, hsame _ ?_, hsame _ ?_⟩
  · exact hi.host.unique isSelection_fewGlobals
      ⟨some "call", @Chosen.line _ .host _ "call" _ (by decide) rfl, rfl⟩
  · exact hi.port.unique isSelection_fewGlobals
      ⟨some (80 : UInt16), @Chosen.line _ .port _ "80" _ (by decide) rfl, rfl⟩
  · cases halone
    exact hcommand
  · exact ⟨_, _, .withCommand (by decide) hbefore rfl hafter, rfl, .refl _, .inr (by decide)⟩
  · exact ⟨_, _, .withCommand (by decide) .nil rfl hall, rfl, by decide, .inl (by decide)⟩

end LspClient.Cli
