import LspClient.Proofs.Cli.Part

/-!
# Reading a command line

A command line that is carried out has the form of one (`exists_line_of_parse`). Where a line has
it, what is written alone decides whether it is carried out and what is asked for
(`Line.parse_eq_ok_iff`): the parts are read apart from each other, each is checked by itself, and
then they are put together.
-/

namespace LspClient.Cli

/-! ### Reading a line -/

open Progress

section

variable {p p' : Progress} {s : String} {args : List String} {items : List Item}

/-- A word that is no command is met as a word of the part before the command. -/
theorem readTop_cons (h : p.awaitsCommand = true → commandName? s = none ∧ s ≠ helpCommand)
    (rest : List String) :
    readTop p (s :: rest) = (p.meet .top s).bind fun p' ↦ readTop p' rest := by
  have hhelp : ¬(p.awaitsCommand = true ∧ s = helpCommand) := fun hs ↦ (h hs.1).2 hs.2
  have hcommand : (if p.awaitsCommand = true then commandName? s else none) = none := by
    split
    case isTrue hp => exact (h hp).1
    case isFalse => rfl
  rw [readTop, if_neg hhelp]
  simp only [hcommand]
  cases p.meet .top s <;> rfl

/-- Behind two dashes there is no place for a word before the command. -/
theorem readTop_closed (hp : p.onlyArguments = true) :
    readTop p args = (p.meetAll .top args).bind fun p' ↦ readTop p' [] := by
  cases args with
  | nil => rfl
  | cons s args =>
    have hmeet : ∃ e, p.meet .top s = .error e := by
      rw [meet, if_pos hp, argument]
      split
      · exact ⟨_, rfl⟩
      · exact ⟨_, rfl⟩
    obtain ⟨e, he⟩ := hmeet
    rw [readTop_cons (fun h ↦ by simp [awaitsCommand, hp] at h), meetAll_cons, he]
    rfl

/-- What is read of the line goes on behind the part before the command. -/
theorem readTop_append (tail : List String) (h : Part .top args items)
    (hend : "--" ∉ args ∨ tail = []) (hp : p.awaitsCommand = true) :
    readTop p (args ++ tail) =
      (p.meetAll .top args).bind fun p' ↦ readTop p' tail := by
  induction h generalizing p with
  | nil => rfl
  | @word s items items' args hs _ ih =>
    obtain ⟨honly, -⟩ := awaitsCommand_iff.1 hp
    rw [List.cons_append, readTop_cons fun _ ↦ commandName?_of_isOption hs.isOption,
      meetAll_cons]
    cases hmeet : p.meet .top s with
    | error e => rfl
    | ok p₁ =>
      rw [meet_word hs honly, take_eq_ok_iff] at hmeet
      obtain ⟨g₁, g₂, -, -, rfl⟩ := hmeet
      exact ih (hend.imp_left fun h hmem ↦ h (List.mem_cons_of_mem s hmem))
        (awaitsCommand_of_none honly rfl)
  | @wordAndValue s v o items items' args hs hv _ ih =>
    obtain ⟨honly, -⟩ := awaitsCommand_iff.1 hp
    rw [List.cons_append, readTop_cons fun _ ↦ commandName?_of_isOption hs.isOption,
      meetAll_cons]
    cases hmeet : p.meet .top s with
    | error e => rfl
    | ok p₁ =>
      rw [meet_word hs honly, take_eq_ok_iff] at hmeet
      obtain ⟨g₁, g₂, -, -, rfl⟩ := hmeet
      have hvalue := @meet_value .top { p with given := g₂, pending := .awaiting o } o v hv rfl
        honly
      show readTop { p with given := g₂, pending := .awaiting o } (v :: (args ++ tail)) = _
      rw [readTop_cons (fun h ↦ by simp [awaitsCommand] at h), hvalue]
      simp only [Except.bind, meetAll_cons, Pending.ofNext, hvalue]
      exact ih (hend.imp_left fun h hmem ↦ h (List.mem_cons_of_mem s (List.mem_cons_of_mem v hmem)))
        (awaitsCommand_iff.2 ⟨honly, fun _ h ↦ Pending.noConfusion h⟩)
  | argument hplace => exact absurd rfl hplace
  | rest args =>
    obtain ⟨honly, -⟩ := awaitsCommand_iff.1 hp
    obtain rfl : tail = [] := hend.resolve_left fun h ↦ h List.mem_cons_self
    rw [List.append_nil, readTop_cons (fun _ ↦ commandName?_of_isOption (by decide)),
      meetAll_cons, meet_end honly]
    exact readTop_closed rfl

theorem readTop_command {command : CommandName} (hp : p.awaitsCommand = true)
    (hs : commandName? s = some command) (after : List String) :
    readTop p (s :: after) = .ok (p, some (command, after)) := by
  have hhelp : ¬(p.awaitsCommand = true ∧ s = helpCommand) := by
    rintro ⟨-, rfl⟩
    cases hs
  rw [readTop, if_neg hhelp]
  simp only [hp, if_true, hs]

/-- A command is found where a word may be one. -/
theorem exists_of_readTop {rest : Option (CommandName × List String)}
    (h : readTop p args = .ok (p', rest)) :
    match rest with
    | none => p.meetAll .top args = .ok p'
    | some (command, after) => ∃ before name, args = before ++ name :: after ∧
        commandName? name = some command ∧ p'.awaitsCommand = true ∧
        p.meetAll .top before = .ok p' := by
  induction args generalizing p with
  | nil =>
    cases h
    rfl
  | cons s args ih =>
    rw [readTop] at h
    split at h
    case isTrue => cases h
    case isFalse =>
      split at h
      case h_1 command hcommand =>
        cases h
        split at hcommand
        case isTrue hp => exact ⟨[], s, rfl, hcommand, hp, rfl⟩
        case isFalse => cases hcommand
      case h_2 =>
        split at h
        case h_1 p₁ hmeet =>
          have hrest := ih h
          cases rest with
          | none =>
            rw [meetAll_cons, hmeet]
            exact hrest
          | some found =>
            obtain ⟨before, name, rfl, hname, hp', hbefore⟩ := hrest
            refine ⟨s :: before, name, rfl, hname, hp', ?_⟩
            rw [meetAll_cons, hmeet]
            exact hbefore
        case h_2 => cases h

end

/-! ### The whole line -/

theorem complete_eq (env : Environment) (place : Place) (p : Progress) :
    complete env place p = do
      let g ← p.final
      checkEnvironment env g
      if namesTwoTransports g then .error .argumentConflict
      if lacksArgument place g then .error .missingRequiredArgument
      return g := by
  rw [complete, settle_eq]
  cases p.final <;> rfl

theorem complete_eq_ok_iff {env : Environment} {place : Place} {p : Progress} {g : Given} :
    complete env place p = .ok g ↔ p.final = .ok g ∧ Checked env place g := by
  rw [complete_eq]
  cases p.final with
  | error e => simp [bind, Except.bind]
  | ok g' =>
    simp only [bind, Except.bind, pure, Except.pure]
    constructor
    · intro h
      cases henv : checkEnvironment env g' with
      | error e =>
        rw [henv] at h
        cases h
      | ok u =>
        simp only [henv] at h
        split at h
        case isTrue => cases h
        case isFalse htwo =>
          split at h
          case isTrue => cases h
          case isFalse hlacks =>
            cases h
            exact ⟨rfl, henv, by simpa using htwo, by simpa using hlacks⟩
    · rintro ⟨hg, hchecked⟩
      cases hg
      simp [hchecked.environment, hchecked.oneTransport, hchecked.arguments]

/-- What the items of a part give is what the part gives to its reader. -/
theorem Part.ofItems_eq_ok_iff {place : Place} {args : List String} {items : List Item} {g : Given}
    (h : Part place args items) :
    Given.ofItems place items = .ok g ↔ finish place {} args = .ok g := by
  rw [finish_eq_ok_iff h rfl, final_of_none rfl]
  simp [Given.ofItems]

/-- What is made of what the parts of a line give. -/
def Assembled (env : Environment) (top : Given) (within : Option (CommandName × Given))
    (i : Invocation) : Prop :=
  merge env top ((within.map Prod.snd).getD {}) = .ok i.globals ∧
    i.command = within.map fun w ↦ command w.1 w.2

theorem parse_eq_ok_iff {env : Environment} {args : List String} {i : Invocation} :
    parse env args = .ok i ↔ ∃ p rest, readTop {} args = .ok (p, rest) ∧
      ∃ top, p.final = .ok top ∧ Checked env .top top ∧
        match rest with
        | none => Assembled env top none i
        | some (name, after) => ∃ within, finish (.within name) {} after = .ok within ∧
            Checked env (.within name) within ∧ Assembled env top (some (name, within)) i := by
  rw [parse, bind_eq_ok_iff]
  constructor
  · rintro ⟨⟨p, rest⟩, hread, h⟩
    refine ⟨p, rest, hread, ?_⟩
    cases rest with
    | none =>
      simp only [bind_eq_ok_iff, complete_eq_ok_iff] at h
      obtain ⟨top, ⟨htop, hchecked⟩, globals, hglobals, hi⟩ := h
      cases hi
      exact ⟨top, htop, hchecked, hglobals, rfl⟩
    | some found =>
      simp only [bind_eq_ok_iff, complete_eq_ok_iff] at h
      obtain ⟨p', hp', within, ⟨hwithin, hchecked'⟩, top, ⟨htop, hchecked⟩, globals, hglobals,
        hi⟩ := h
      cases hi
      exact ⟨top, htop, hchecked, within, bind_eq_ok_iff.2 ⟨p', hp', hwithin⟩, hchecked', hglobals,
        rfl⟩
  · rintro ⟨p, rest, hread, top, htop, hchecked, hrest⟩
    refine ⟨(p, rest), hread, ?_⟩
    obtain ⟨globals, asked⟩ := i
    cases rest with
    | none =>
      obtain ⟨hglobals, rfl⟩ := hrest
      simp only [bind_eq_ok_iff, complete_eq_ok_iff]
      exact ⟨top, ⟨htop, hchecked⟩, globals, hglobals, rfl⟩
    | some found =>
      obtain ⟨within, hwithin, hchecked', hglobals, rfl⟩ := hrest
      obtain ⟨p', hp', hwithin⟩ := bind_eq_ok_iff.1 hwithin
      simp only [bind_eq_ok_iff, complete_eq_ok_iff]
      exact ⟨p', hp', within, ⟨hwithin, hchecked'⟩, top, ⟨htop, hchecked⟩, globals, hglobals, rfl⟩

/-- **What a line asks for.** Whether a line of this form is carried out, and what it asks for, is
what the items of its parts say one after another. -/
theorem Line.parse_eq_ok_iff {env : Environment} {args : List String} {items : List Item}
    {rest : Option (CommandName × List Item)} (h : Line args items rest) {i : Invocation} :
    parse env args = .ok i ↔
      ∃ top, Given.ofItems .top items = .ok top ∧ Checked env .top top ∧
        match rest with
        | none => Assembled env top none i
        | some (name, items') => ∃ within, Given.ofItems (.within name) items' = .ok within ∧
            Checked env (.within name) within ∧ Assembled env top (some (name, within)) i := by
  rw [Cli.parse_eq_ok_iff]
  cases h with
  | alone h =>
    have hread := readTop_append [] h (.inr rfl) (p := {}) rfl
    rw [List.append_nil] at hread
    simp only [hread, h.ofItems_eq_ok_iff, finish, bind_eq_ok_iff]
    constructor
    · rintro ⟨p, rest, hp, top, htop, hchecked, hrest⟩
      obtain ⟨p₁, hmeet, hp⟩ := bind_eq_ok_iff.1 hp
      cases hp
      exact ⟨top, ⟨p, hmeet, htop⟩, hchecked, hrest⟩
    · rintro ⟨top, ⟨p, hmeet, htop⟩, hchecked, hrest⟩
      exact ⟨p, none, bind_eq_ok_iff.2 ⟨p, hmeet, rfl⟩, top, htop, hchecked, hrest⟩
  | @withCommand before after word name items items' hend h hname h' =>
    have hread := readTop_append (word :: after) h (.inl hend) (p := {}) rfl
    have hfound : ∀ p, meetAll .top {} before = .ok p →
        readTop p (word :: after) = .ok (p, some (name, after)) :=
      fun p hp ↦ readTop_command (awaitsCommand_of_meetAll h hend rfl hp) hname after
    simp only [hread, h.ofItems_eq_ok_iff, h'.ofItems_eq_ok_iff]
    constructor
    · rintro ⟨p, rest, hp, top, htop, hchecked, hrest⟩
      obtain ⟨p₁, hmeet, hp⟩ := bind_eq_ok_iff.1 hp
      rw [hfound p₁ hmeet] at hp
      cases hp
      exact ⟨top, bind_eq_ok_iff.2 ⟨p, hmeet, htop⟩, hchecked, hrest⟩
    · rintro ⟨top, htop, hchecked, hrest⟩
      obtain ⟨p, hmeet, htop⟩ := bind_eq_ok_iff.1 htop
      exact ⟨p, some (name, after), bind_eq_ok_iff.2 ⟨p, hmeet, hfound p hmeet⟩, top, htop,
        hchecked, hrest⟩

/-- A line in which a command is found, or none, has the form of one, if the part that is read last
is read to its end. -/
theorem exists_line_of_readTop {args : List String} {p : Progress}
    {rest : Option (CommandName × List String)} (h : readTop {} args = .ok (p, rest)) :
    match rest with
    | none => ∀ top, p.final = .ok top →
        ∃ items, Line args items none ∧ Given.ofItems .top items = .ok top
    | some (name, after) => ∀ within, finish (.within name) {} after = .ok within →
        ∃ items items', Line args items (some (name, items')) ∧
          Given.ofItems (.within name) items' = .ok within ∧
          ∀ top, p.final = .ok top → Given.ofItems .top items = .ok top := by
  have hfound := exists_of_readTop h
  cases rest with
  | none =>
    intro top htop
    have hfinish : finish .top {} args = .ok top := bind_eq_ok_iff.2 ⟨p, hfound, htop⟩
    obtain ⟨items, hpart⟩ := exists_part_of_finish hfinish rfl
    exact ⟨items, .alone hpart, hpart.ofItems_eq_ok_iff.2 hfinish⟩
  | some found =>
    obtain ⟨name, after⟩ := found
    obtain ⟨before, word, rfl, hname, hp, hbefore⟩ := hfound
    intro within hwithin
    obtain ⟨honly, hpending⟩ := awaitsCommand_iff.1 hp
    obtain ⟨items, hpart⟩ := (exists_part_of_meetAll hbefore hpending rfl).1 rfl
    obtain ⟨items', hpart'⟩ := exists_part_of_finish hwithin rfl
    have hend : "--" ∉ before := by
      intro hmem
      rw [closed_of_mem hbefore hmem] at honly
      cases honly
    exact ⟨items, items', .withCommand hend hpart hname hpart', hpart'.ofItems_eq_ok_iff.2 hwithin,
      fun top htop ↦ hpart.ofItems_eq_ok_iff.2 (bind_eq_ok_iff.2 ⟨p, hbefore, htop⟩)⟩

/-- **Which lines are carried out.** A line that is carried out has the form of one. -/
theorem exists_line_of_parse {env : Environment} {args : List String} {i : Invocation}
    (h : parse env args = .ok i) : ∃ items rest, Line args items rest := by
  obtain ⟨p, rest, hread, top, htop, -, hrest⟩ := parse_eq_ok_iff.1 h
  have hform := exists_line_of_readTop hread
  cases rest with
  | none =>
    obtain ⟨items, hline, -⟩ := hform top htop
    exact ⟨items, none, hline⟩
  | some found =>
    obtain ⟨within, hwithin, -⟩ := hrest
    obtain ⟨items, items', hline, -⟩ := hform within hwithin
    exact ⟨items, _, hline⟩

end LspClient.Cli
