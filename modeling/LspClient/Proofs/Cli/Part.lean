import LspClient.Proofs.Cli.Line
import LspClient.Proofs.Text.Blank

/-!
# Reading a part of a command line

A part of the line that is read has the form of one (`Progress.exists_part_of_finish`), and where it
has that form it is read as what is written in it, item by item (`Progress.finish_eq_ok_iff`). The
reader looks at a value only when it meets what comes behind it, so the state in between is not that
of the items read so far: what is given is what there will be once the value is looked at
(`Progress.final`). Which of several mistakes is reported is left out here.
-/

namespace LspClient.Cli

/-! ### Reading a word -/

/-- No command is written as an option is. -/
theorem commandName?_of_isOption {s : String} (h : isOption s = true) :
    commandName? s = none ∧ s ≠ helpCommand := by
  constructor
  · rw [commandName?.eq_def]
    split
    case h_4 => rfl
    all_goals exact absurd h (by decide)
  · rintro rfl
    exact absurd h (by decide)

/-- A word for options begins with one dash or with two, and does not end there. -/
theorem Word.exists_cons {place : Place} {s : List Char} {items : List Item}
    {next : Option ValueOption} (h : Word place s items next) :
    ∃ c t, s = '-' :: '-' :: c :: t ∨ (s = '-' :: c :: t ∧ c ≠ '-') := by
  have hempty : longOption? (.ofList []) = none := rfl
  cases h with
  | @flag name f hname h =>
    cases name with
    | nil => rw [hempty] at h; cases h
    | cons c t => exact ⟨c, t, .inl rfl⟩
  | @attached name v o hname h =>
    cases name with
    | nil => exact ⟨'=', v, .inl rfl⟩
    | cons c t => exact ⟨c, t ++ '=' :: v, .inl rfl⟩
  | @next name o hname h =>
    cases name with
    | nil => rw [hempty] at h; cases h
    | cons c t => exact ⟨c, t, .inl rfl⟩
  | @letters c t items next hc h => exact ⟨c, t, .inr ⟨rfl, hc⟩⟩

/-- A word that gives items is no argument. -/
theorem Word.isOption {place : Place} {s : String} {items : List Item} {next : Option ValueOption}
    (h : Word place s.toList items next) : isOption s = true := by
  obtain ⟨c, t, hs | ⟨hs, -⟩⟩ := h.exists_cons
  · rw [Cli.isOption, hs]
    rfl
  · rw [Cli.isOption, hs]
    rfl

/-- The option whose value is awaited. -/
def Pending.ofNext : Option ValueOption → Pending
  | .none => .none
  | .some o => .awaiting o

namespace Progress

variable {place : Place} {p p' : Progress} {g : Given} {o : ValueOption} {s : String}
  {items items' : List Item} {next : Option ValueOption} {args : List String} {c : Char}
  {cs : List Char}

/-- What is given when a part of the line is at its end. -/
def final (p : Progress) : Except Refusal Given :=
  p.settle.map Progress.given

/-- What is known behind a word that says some items. -/
def take (place : Place) (items : List Item) (next : Option ValueOption) (p : Progress) :
    Except Refusal Progress := do
  let g ← p.final
  let g ← items.foldlM (Given.take place) g
  return { p with given := g, pending := .ofNext next }

theorem settle_eq (p : Progress) :
    p.settle = do return { p with given := ← p.final, pending := .none } := by
  obtain ⟨given, pending, only⟩ := p
  cases pending with
  | none => rfl
  | awaiting o => rfl
  | holding o v =>
    simp only [final, settle]
    cases given.set o v <;> rfl

/-- With no option pending all that is given is what was given. -/
theorem final_of_none (h : p.pending = .none) : p.final = .ok p.given := by
  rw [final, settle, h]
  rfl

/-- An option that still awaits its value has none. -/
theorem final_of_awaiting (h : p.pending = .awaiting o) : p.final = .error .invalidValue := by
  rw [final, settle, h]
  rfl

/-- An option whose value has been met is set to it. -/
theorem final_of_holding {v : String} (h : p.pending = .holding o v) :
    p.final = p.given.set o v := by
  rw [final, settle, h]
  cases h : p.given.set o v <;> simp [h] <;> rfl

/-- Two dashes do not change what is given. -/
theorem final_closed (p : Progress) : final { p with onlyArguments := true } = p.final := by
  obtain ⟨given, pending, only⟩ := p
  cases pending with
  | none | awaiting o => rfl
  | holding o v =>
    rw [final_of_holding (o := o) (v := v) rfl, final_of_holding (o := o) (v := v) rfl]

/-- Items are taken after what is pending has been settled, and one may then be pending. -/
theorem take_eq_ok_iff : p.take place items next = .ok p' ↔ ∃ g g', p.final = .ok g ∧
    items.foldlM (Given.take place) g = .ok g' ∧
      p' = { p with given := g', pending := .ofNext next } := by
  simp only [take, bind_eq_ok_iff]
  constructor
  · rintro ⟨g, hg, g', hg', h⟩
    exact ⟨g, g', hg, hg', (Except.ok.inj h).symm⟩
  · rintro ⟨g, g', hg, hg', rfl⟩
    exact ⟨g, hg, g', hg', rfl⟩

theorem raise_eq (place : Place) (p : Progress) (f : Flag) :
    p.raise f = p.take place [.flag f] none := by
  rw [raise, settle_eq, take]
  cases p.final with
  | error e => rfl
  | ok g =>
    cases h : g.raise f <;>
      simp [bind, Except.bind, Given.take, Pending.ofNext, h, pure, Except.pure]

theorem attach_eq (place : Place) (p : Progress) (o : ValueOption) (v : String) :
    p.attach o v = p.take place [.value o v] none := by
  rw [attach, settle_eq, take]
  cases p.final with
  | error e => rfl
  | ok g =>
    cases h : g.set o v <;>
      simp [bind, Except.bind, Given.take, Pending.ofNext, h, pure, Except.pure]

theorem await_eq (place : Place) (p : Progress) (o : ValueOption) :
    p.await o = p.take place [] (some o) := by
  rw [await, settle_eq, take]
  cases p.final <;> rfl

/-- What is said in two words is said in one. -/
theorem take_append (place : Place) (items items' : List Item) (next : Option ValueOption)
    (p : Progress) :
    p.take place (items ++ items') next =
      (p.take place items none).bind fun p' ↦ p'.take place items' next := by
  simp only [take, List.foldlM_append]
  cases p.final with
  | error e => rfl
  | ok g =>
    simp only [bind, Except.bind]
    cases items.foldlM (Given.take place) g with
    | error e => rfl
    | ok g' => rfl

/-- Options of one letter each are taken one after another. -/
theorem short_eq_take {cs : List Char} (h : Letters place cs items next) (p : Progress) :
    short place cs p = p.take place items next := by
  induction h generalizing p with
  | @flag c f h =>
    rw [short, h]
    simp only [raise_eq place]
    cases p.take place [.flag f] none <;> rfl
  | @flags c f s items next h hs ih =>
    rw [short, h, ← List.singleton_append, take_append]
    simp only [raise_eq place]
    cases p.take place [.flag f] none with
    | ok p' => exact ih p'
    | error e => rfl
  | @attached c o s h hs =>
    rw [short, h, ← attach_eq]
    obtain ⟨d, s, rfl⟩ := List.exists_cons_of_ne_nil hs
    by_cases hd : d = '='
    · subst hd
      rfl
    · simp only [attachedText]
      grind
  | next h =>
    rw [short, h]
    exact await_eq place p _

/-- A long option gives the items of its word. -/
theorem long_eq_take {cs : List Char} (h : Word place ('-' :: '-' :: cs) items next)
    (p : Progress) : long place cs p = p.take place items next := by
  cases h with
  | flag hname h =>
    simp only [long, Text.splitAtFirst_eq_none_iff.2 hname, h]
    exact raise_eq place p _
  | attached hname h =>
    simp only [long, Text.splitAtFirst_append hname, h]
    exact attach_eq place p _ _
  | next hname h =>
    simp only [long, Text.splitAtFirst_eq_none_iff.2 hname, h]
    exact await_eq place p _
  | letters hc => exact absurd rfl hc

theorem meet_two_dashes (h : s.toList = '-' :: '-' :: c :: cs) (hp : p.onlyArguments = false) :
    p.meet place s = p.long place (c :: cs) := by
  simp only [meet, hp, h]
  rfl

/-- A word that begins with one dash is a word of letters. -/
theorem meet_dash (h : s.toList = '-' :: c :: cs) (hc : c ≠ '-') (hp : p.onlyArguments = false) :
    p.meet place s = short place (c :: cs) p := by
  simp only [meet, hp, h]
  grind

/-- A word for options is taken as what it says. -/
theorem meet_word (hs : Word place s.toList items next) (hp : p.onlyArguments = false) :
    p.meet place s = p.take place items next := by
  obtain ⟨c, cs, h | ⟨h, hc⟩⟩ := hs.exists_cons
  · rw [meet_two_dashes h hp]
    exact long_eq_take (h ▸ hs) p
  · rw [meet_dash h hc hp]
    rw [h] at hs
    cases hs with
    | flag | attached | next => exact absurd rfl hc
    | letters _ hs => exact short_eq_take hs p

/-- A word that is not written as an option is a value, or an argument. -/
theorem meet_of_isOption_eq_false (hs : isOption s = false) (hp : p.onlyArguments = false) :
    p.meet place s =
      match p.pending with
      | .awaiting o => .ok { p with pending := .holding o s }
      | _ => p.argument place s := by
  rw [isOption] at hs
  rw [meet, if_neg (by simp [hp])]
  split
  case h_1 h => rw [h] at hs; cases hs
  case h_2 h => rw [h] at hs; cases hs
  case h_3 h => rw [h] at hs; cases hs
  case h_4 => rfl

/-- Where no value is awaited, the next word may be a command. -/
theorem awaitsCommand_iff :
    p.awaitsCommand = true ↔ p.onlyArguments = false ∧ ∀ o, p.pending ≠ .awaiting o := by
  obtain ⟨given, pending, only⟩ := p
  cases only <;> cases pending <;> simp [awaitsCommand]

theorem awaitsCommand_of_none (honly : p.onlyArguments = false) (hp : p.pending = .none) :
    p.awaitsCommand = true :=
  awaitsCommand_iff.2 ⟨honly, fun _ h ↦ Pending.noConfusion (hp.symm.trans h)⟩

/-- What is no option is an argument where none awaits a value. -/
theorem meet_argument (hs : isOption s = false) (hp : p.awaitsCommand = true) :
    p.meet place s = p.argument place s := by
  obtain ⟨honly, hpending⟩ := awaitsCommand_iff.1 hp
  rw [meet_of_isOption_eq_false hs honly]
  split
  case h_1 o h => exact absurd h (hpending o)
  case h_2 => rfl

/-- What is no option is the value of an option that awaits one. -/
theorem meet_value (hs : isOption s = false) (hp : p.pending = .awaiting o)
    (honly : p.onlyArguments = false) :
    p.meet place s = .ok { p with pending := .holding o s } := by
  rw [meet_of_isOption_eq_false hs honly, hp]

theorem meet_end (hp : p.onlyArguments = false) :
    p.meet place "--" = .ok { p with onlyArguments := true } := by
  rw [meet, if_neg (by simp [hp])]
  rfl

/-! ### Words that are read -/

/-- Letters that are accepted give items. -/
theorem exists_letters_of_short (h : short place (c :: cs) p = .ok p') :
    ∃ items next, Letters place (c :: cs) items next := by
  induction cs generalizing c p with
  | nil =>
    rw [short] at h
    split at h
    case h_1 => cases h
    case h_2 f hf => exact ⟨_, _, .flag hf⟩
    case h_3 o ho => exact ⟨_, _, .next ho⟩
  | cons d cs ih =>
    rw [short] at h
    split at h
    case h_1 => cases h
    case h_2 f hf =>
      split at h
      case h_1 p'' _ =>
        obtain ⟨items, next, hs⟩ := ih h
        exact ⟨_, _, .flags hf hs⟩
      case h_2 => cases h
    case h_3 o ho => exact ⟨_, _, .attached ho (List.cons_ne_nil d cs)⟩

/-- A long option that is accepted gives items. -/
theorem exists_word_of_long (h : p.long place cs = .ok p') :
    ∃ items next, Word place ('-' :: '-' :: cs) items next := by
  rw [long] at h
  cases hsplit : Text.splitAtFirst '=' cs with
  | none =>
    have hname := Text.splitAtFirst_eq_none_iff.1 hsplit
    simp only [hsplit] at h
    split at h
    case h_1 => cases h
    case h_2 => contradiction
    case h_3 f hf _ => exact ⟨_, _, .flag hname hf⟩
    case h_4 => contradiction
    case h_5 o ho _ => exact ⟨_, _, .next hname ho⟩
  | some parts =>
    obtain ⟨name, v⟩ := parts
    obtain ⟨rfl, hname⟩ := Text.splitAtFirst_eq_some_iff.1 hsplit
    simp only [hsplit] at h
    split at h
    case h_1 => cases h
    case h_2 => cases h
    case h_3 => contradiction
    case h_4 o v' ho _ => exact ⟨_, _, .attached hname ho⟩
    case h_5 => contradiction

/-- A word that is taken for options is one. -/
theorem exists_word_of_meet (hs : isOption s = true) (hend : s ≠ "--")
    (hp : p.onlyArguments = false) (h : p.meet place s = .ok p') :
    ∃ items next, Word place s.toList items next := by
  rw [isOption] at hs
  split at hs
  case h_2 => cases hs
  case h_1 c cs hcs =>
    by_cases hc : c = '-'
    · subst hc
      cases cs with
      | nil => exact absurd (String.toList_inj.1 hcs) hend
      | cons c cs =>
        rw [meet_two_dashes hcs hp] at h
        rw [hcs]
        exact exists_word_of_long h
    · rw [meet_dash hcs hc hp] at h
      obtain ⟨items, next, hletters⟩ := exists_letters_of_short h
      rw [hcs]
      exact ⟨items, next, .letters hc hletters⟩

/-! ### Reading a part -/

/-- Meets words one after another. -/
def meetAll (place : Place) (p : Progress) (args : List String) : Except Refusal Progress :=
  args.foldlM (fun p s ↦ p.meet place s) p

theorem meetAll_cons (place : Place) (p : Progress) (s : String) (args : List String) :
    p.meetAll place (s :: args) = (p.meet place s).bind fun p' ↦ p'.meetAll place args :=
  List.foldlM_cons

/-- What a part of the line gives. -/
def finish (place : Place) (p : Progress) (args : List String) : Except Refusal Given :=
  p.meetAll place args >>= final

theorem finish_nil (place : Place) (p : Progress) : p.finish place [] = p.final :=
  rfl

/-- The words of a part are met one after another, and then it is finished. -/
theorem finish_cons_eq_ok_iff :
    p.finish place (s :: args) = .ok g ↔
      ∃ p', p.meet place s = .ok p' ∧ p'.finish place args = .ok g := by
  simp only [finish, meetAll, List.foldlM_cons, bind_assoc, bind_eq_ok_iff]

/-- The options that are given do not change the arguments. -/
theorem arguments_of_set {v : String} {g g' : Given} (h : g.set o v = .ok g') :
    g'.arguments = g.arguments := by
  cases o <;> simp only [Given.set, bind_eq_ok_iff] at h <;> obtain ⟨_, -, h⟩ := h <;> cases h <;>
    rfl

/-- What is pending is no argument. -/
theorem arguments_of_final (h : p.final = .ok g) : g.arguments = p.given.arguments := by
  cases hp : p.pending with
  | none =>
    rw [final_of_none hp] at h
    rw [Except.ok.inj h]
  | awaiting o =>
    rw [final_of_awaiting hp] at h
    cases h
  | holding o v =>
    rw [final_of_holding hp] at h
    exact arguments_of_set h

/-- An argument is taken behind the value that stands before it, if there is room for it. -/
theorem argument_eq_ok_iff :
    p.argument place s = .ok p' ↔ p.take place [.argument s] none = .ok p' := by
  have hone : ∀ {g g' : Given}, [Item.argument s].foldlM (Given.take place) g = .ok g' ↔
      g.take place (.argument s) = .ok g' := by
    simp
  simp only [take_eq_ok_iff, hone]
  cases place with
  | top =>
    constructor
    · intro h
      rw [argument] at h
      split at h <;> cases h
    · rintro ⟨g, g', -, h, -⟩
      rw [Given.take, if_neg (by simp [Place.capacity])] at h
      cases h
  | within command =>
    constructor
    · intro h
      rw [argument] at h
      split at h
      case isTrue hroom =>
        rw [settle_eq] at h
        simp only [bind_eq_ok_iff] at h
        obtain ⟨_, ⟨g, hg, hp'⟩, h⟩ := h
        cases hp'
        cases h
        refine ⟨g, _, hg, ?_, rfl⟩
        rw [← arguments_of_final hg] at hroom
        exact if_pos hroom
      case isFalse => cases h
    · rintro ⟨g, g', hg, h, rfl⟩
      rw [Given.take] at h
      split at h
      case isTrue hroom =>
        cases h
        rw [arguments_of_final hg] at hroom
        rw [argument, if_pos (show _ < capacity command from hroom), settle_eq, hg]
        rfl
      case isFalse => cases h

theorem foldlM_cons_eq_ok_iff {g g' : Given} {item : Item} :
    (item :: items).foldlM (Given.take place) g = .ok g' ↔
      ∃ g₁, g.take place item = .ok g₁ ∧ items.foldlM (Given.take place) g₁ = .ok g' := by
  rw [List.foldlM_cons, bind_eq_ok_iff]

/-- Items are taken one after another. -/
theorem foldlM_append_eq_ok_iff {g g' : Given} :
    (items ++ items').foldlM (Given.take place) g = .ok g' ↔
      ∃ g₁, items.foldlM (Given.take place) g = .ok g₁ ∧
        items'.foldlM (Given.take place) g₁ = .ok g' := by
  rw [List.foldlM_append, bind_eq_ok_iff]

/-- If what follows a word is read item by item, it is so read with what the word says before
it. -/
theorem finish_take_eq_ok_iff
    (hnext : ∀ g', finish place { p with given := g', pending := .none } args = .ok g ↔
      items'.foldlM (Given.take place) g' = .ok g) :
    (∃ p', p.take place items none = .ok p' ∧ p'.finish place args = .ok g) ↔
      ∃ g', p.final = .ok g' ∧ (items ++ items').foldlM (Given.take place) g' = .ok g := by
  simp only [take_eq_ok_iff, foldlM_append_eq_ok_iff]
  constructor
  · rintro ⟨_, ⟨g₁, g₂, hg₁, hg₂, rfl⟩, h⟩
    exact ⟨g₁, hg₁, g₂, hg₂, (hnext g₂).1 h⟩
  · rintro ⟨g₁, hg₁, g₂, hg₂, h⟩
    exact ⟨_, ⟨g₁, g₂, hg₁, hg₂, rfl⟩, (hnext g₂).2 h⟩

/-- Behind two dashes every word is an argument. -/
theorem finish_of_onlyArguments (hp : p.onlyArguments = true) :
    p.finish place args = .ok g ↔
      ∃ g', p.final = .ok g' ∧ (args.map .argument).foldlM (Given.take place) g' = .ok g := by
  induction args generalizing p with
  | nil => simp [finish_nil, pure, Except.pure]
  | cons s args ih =>
    have hmeet : p.meet place s = p.argument place s := if_pos hp
    simp only [finish_cons_eq_ok_iff, hmeet, argument_eq_ok_iff]
    refine finish_take_eq_ok_iff fun g' ↦ ?_
    rw [@ih { p with given := g', pending := .none } hp, final_of_none rfl]
    simp

/-- A part of the line is read as what is written in it, item by item. -/
theorem finish_eq_ok_iff (h : Part place args items) (hp : p.awaitsCommand = true) :
    p.finish place args = .ok g ↔
      ∃ g', p.final = .ok g' ∧ items.foldlM (Given.take place) g' = .ok g := by
  induction h generalizing p with
  | nil => simp [finish_nil, pure, Except.pure]
  | @word s items items' args hs _ ih =>
    obtain ⟨honly, -⟩ := awaitsCommand_iff.1 hp
    simp only [finish_cons_eq_ok_iff, meet_word hs honly]
    refine finish_take_eq_ok_iff fun g' ↦ ?_
    rw [@ih { p with given := g', pending := .none } (awaitsCommand_of_none honly rfl),
      final_of_none rfl]
    simp
  | @wordAndValue s v o items items' args hs hv _ ih =>
    obtain ⟨honly, -⟩ := awaitsCommand_iff.1 hp
    -- the value is looked at only when the next word is met
    have hnext : ∀ g', finish place { p with given := g', pending := .holding o v } args = .ok g ↔
        ∃ g₁, g'.set o v = .ok g₁ ∧ items'.foldlM (Given.take place) g₁ = .ok g := by
      intro g'
      rw [@ih { p with given := g', pending := .holding o v }
        (awaitsCommand_iff.2 ⟨honly, fun _ h ↦ Pending.noConfusion h⟩), final_of_holding rfl]
    have hmeet_value : ∀ g', meet place v { p with given := g', pending := .awaiting o } =
        .ok { p with given := g', pending := .holding o v } := fun g' ↦
      @meet_value place { p with given := g', pending := .awaiting o } o v hv rfl honly
    simp only [finish_cons_eq_ok_iff, meet_word hs honly, take_eq_ok_iff, foldlM_append_eq_ok_iff,
      foldlM_cons_eq_ok_iff]
    constructor
    · rintro ⟨_, ⟨g₁, g₂, hg₁, hg₂, rfl⟩, p₂, hmeet, h⟩
      cases (hmeet_value g₂).symm.trans hmeet
      exact ⟨g₁, hg₁, g₂, hg₂, (hnext g₂).1 h⟩
    · rintro ⟨g₁, hg₁, g₂, hg₂, h⟩
      exact ⟨_, ⟨g₁, g₂, hg₁, hg₂, rfl⟩, _, hmeet_value g₂, (hnext g₂).2 h⟩
  | @argument s items args _ hs _ ih =>
    obtain ⟨honly, -⟩ := awaitsCommand_iff.1 hp
    simp only [finish_cons_eq_ok_iff, meet_argument hs hp, argument_eq_ok_iff]
    refine finish_take_eq_ok_iff fun g' ↦ ?_
    rw [@ih { p with given := g', pending := .none } (awaitsCommand_of_none honly rfl),
      final_of_none rfl]
    simp
  | rest args =>
    obtain ⟨honly, -⟩ := awaitsCommand_iff.1 hp
    simp only [finish_cons_eq_ok_iff, meet_end honly, Except.ok.injEq, exists_eq_left']
    rw [finish_of_onlyArguments (p := { p with onlyArguments := true }) rfl, final_closed]

theorem exists_of_meetAll_cons (h : p.meetAll place (s :: args) = .ok p') :
    ∃ p₁, p.meet place s = .ok p₁ ∧ p₁.meetAll place args = .ok p' := by
  rw [meetAll_cons] at h
  exact bind_eq_ok_iff.1 h

/-- Behind two dashes no word is the value that was awaited before them. -/
theorem not_awaiting_of_meetAll (h : p.meetAll place args = .ok p') (hp : p.onlyArguments = true)
    (hend : ∀ o, p'.pending ≠ .awaiting o) (o : ValueOption) : p.pending ≠ .awaiting o := by
  intro ho
  cases args with
  | nil =>
    cases h
    exact hend o ho
  | cons s args =>
    obtain ⟨p₁, hmeet, -⟩ := exists_of_meetAll_cons h
    rw [meet, if_pos hp, argument_eq_ok_iff, take_eq_ok_iff] at hmeet
    obtain ⟨g, g', hg, -, -⟩ := hmeet
    rw [final_of_awaiting ho] at hg
    cases hg

/-- Words that are taken have the form of a part, if no value is awaited behind them. Where a value
is awaited before them, they begin with that value. -/
theorem exists_part_of_meetAll (h : p.meetAll place args = .ok p')
    (hend : ∀ o, p'.pending ≠ .awaiting o) (honly : p.onlyArguments = false) :
    (p.awaitsCommand = true → ∃ items, Part place args items) ∧
    ∀ o, p.pending = .awaiting o → ∃ v args' items, args = v :: args' ∧ isOption v = false ∧
      Part place args' items := by
  induction args generalizing p with
  | nil =>
    cases h
    exact ⟨fun _ ↦ ⟨[], .nil⟩, fun o ho ↦ absurd ho (hend o)⟩
  | cons s args ih =>
    obtain ⟨p₁, hmeet, h⟩ := exists_of_meetAll_cons h
    refine ⟨fun hp ↦ ?_, fun o ho ↦ ?_⟩
    · by_cases hdashes : s = "--"
      · subst hdashes
        exact ⟨_, .rest args⟩
      cases hs : isOption s with
      | true =>
        obtain ⟨items, next, hword⟩ := exists_word_of_meet hs hdashes honly hmeet
        rw [meet_word hword honly, take_eq_ok_iff] at hmeet
        obtain ⟨g₁, g₂, -, -, rfl⟩ := hmeet
        cases next with
        | none =>
          obtain ⟨items', hpart⟩ := (ih h honly).1 (awaitsCommand_of_none honly rfl)
          exact ⟨_, .word hword hpart⟩
        | some o =>
          obtain ⟨v, args', items', rfl, hv, hpart⟩ := (ih h honly).2 o rfl
          exact ⟨_, .wordAndValue hword hv hpart⟩
      | false =>
        rw [meet_argument hs hp] at hmeet
        have hplace : place ≠ .top := by
          rintro rfl
          rw [argument] at hmeet
          split at hmeet <;> cases hmeet
        obtain ⟨g₁, g₂, -, -, rfl⟩ := take_eq_ok_iff.1 (argument_eq_ok_iff.1 hmeet)
        obtain ⟨items, hpart⟩ := (ih h honly).1 (awaitsCommand_of_none honly rfl)
        exact ⟨_, .argument hplace hs hpart⟩
    · by_cases hdashes : s = "--"
      · subst hdashes
        rw [meet_end honly] at hmeet
        cases hmeet
        exact absurd ho (not_awaiting_of_meetAll h rfl hend o)
      cases hs : isOption s with
      | true =>
        obtain ⟨items, next, hword⟩ := exists_word_of_meet hs hdashes honly hmeet
        rw [meet_word hword honly, take_eq_ok_iff] at hmeet
        obtain ⟨g₁, g₂, hg₁, -, -⟩ := hmeet
        rw [final_of_awaiting ho] at hg₁
        cases hg₁
      | false =>
        rw [meet_value hs ho honly] at hmeet
        cases hmeet
        obtain ⟨items, hpart⟩ := (ih h honly).1
          (awaitsCommand_iff.2 ⟨honly, fun _ h ↦ Pending.noConfusion h⟩)
        exact ⟨s, args, items, rfl, hs, hpart⟩

/-- A part of the line that is read has the form of one. -/
theorem exists_part_of_finish (h : p.finish place args = .ok g) (hp : p.awaitsCommand = true) :
    ∃ items, Part place args items := by
  obtain ⟨p', hmeet, hfinal⟩ := bind_eq_ok_iff.1 h
  refine (exists_part_of_meetAll hmeet (fun o ho ↦ ?_) (awaitsCommand_iff.1 hp).1).1 hp
  rw [final_of_awaiting ho] at hfinal
  cases hfinal

/-! ### Where a command may follow -/

/-- After the end of the options only arguments follow. -/
theorem closed_of_meetAll (h : p.meetAll place args = .ok p') (hp : p.onlyArguments = true) :
    p'.onlyArguments = true := by
  induction args generalizing p with
  | nil =>
    cases h
    exact hp
  | cons s args ih =>
    obtain ⟨p₁, hmeet, h⟩ := exists_of_meetAll_cons h
    rw [meet, if_pos hp, argument_eq_ok_iff, take_eq_ok_iff] at hmeet
    obtain ⟨g, g', -, -, rfl⟩ := hmeet
    exact ih h hp

/-- Two dashes close a part for options. -/
theorem closed_of_mem (h : p.meetAll place args = .ok p') (hmem : "--" ∈ args) :
    p'.onlyArguments = true := by
  induction args generalizing p with
  | nil => cases hmem
  | cons s args ih =>
    obtain ⟨p₁, hmeet, h⟩ := exists_of_meetAll_cons h
    rcases List.mem_cons.1 hmem with rfl | hmem
    · cases hp : p.onlyArguments with
      | true =>
        rw [meet, if_pos hp, argument_eq_ok_iff, take_eq_ok_iff] at hmeet
        obtain ⟨g, g', -, -, rfl⟩ := hmeet
        exact closed_of_meetAll h hp
      | false =>
        rw [meet_end hp] at hmeet
        cases hmeet
        exact closed_of_meetAll h rfl
    · exact ih h hmem

/-- Behind a part without them a command may follow. -/
theorem awaitsCommand_of_meetAll (h : Part place args items) (hend : "--" ∉ args)
    (hp : p.awaitsCommand = true) (hmeet : p.meetAll place args = .ok p') :
    p'.awaitsCommand = true := by
  induction h generalizing p with
  | nil =>
    cases hmeet
    exact hp
  | @word s items items' args hs _ ih =>
    obtain ⟨honly, -⟩ := awaitsCommand_iff.1 hp
    obtain ⟨p₁, hs', hmeet⟩ := exists_of_meetAll_cons hmeet
    rw [meet_word hs honly, take_eq_ok_iff] at hs'
    obtain ⟨g₁, g₂, -, -, rfl⟩ := hs'
    exact @ih { p with given := g₂, pending := .none }
      (fun hmem ↦ hend (List.mem_cons_of_mem s hmem)) (awaitsCommand_of_none honly rfl) hmeet
  | @wordAndValue s v o items items' args hs hv _ ih =>
    obtain ⟨honly, -⟩ := awaitsCommand_iff.1 hp
    obtain ⟨p₁, hs', hmeet⟩ := exists_of_meetAll_cons hmeet
    rw [meet_word hs honly, take_eq_ok_iff] at hs'
    obtain ⟨g₁, g₂, -, -, rfl⟩ := hs'
    obtain ⟨p₂, hv', hmeet⟩ := exists_of_meetAll_cons hmeet
    cases (@meet_value place { p with given := g₂, pending := .awaiting o } o v hv rfl
      honly).symm.trans hv'
    exact @ih { p with given := g₂, pending := .holding o v }
      (fun hmem ↦ hend (List.mem_cons_of_mem s (List.mem_cons_of_mem v hmem)))
      (awaitsCommand_iff.2 ⟨honly, fun _ h ↦ Pending.noConfusion h⟩) hmeet
  | @argument s items args _ hs _ ih =>
    obtain ⟨honly, -⟩ := awaitsCommand_iff.1 hp
    obtain ⟨p₁, hs', hmeet⟩ := exists_of_meetAll_cons hmeet
    rw [meet_argument hs hp, argument_eq_ok_iff, take_eq_ok_iff] at hs'
    obtain ⟨g₁, g₂, -, -, rfl⟩ := hs'
    exact @ih { p with given := g₂, pending := .none }
      (fun hmem ↦ hend (List.mem_cons_of_mem s hmem)) (awaitsCommand_of_none honly rfl) hmeet
  | rest args => exact absurd List.mem_cons_self hend

end Progress

end LspClient.Cli
