import LspClient.Proofs.Cli.Naming

/-!
# Options and their variables

Where an option is given on the command line, the variable that stands in for it should not matter.
Without a command it does not. With a command, the variable is also read for a side of the line that
leaves the option open, before the two sides are put together; so for an option that is given on one
side only it matters whether the variable can be read, and nothing else about it does
(`parse_variable_of_given`). Two environments are compared by what they let pass (`OrRefused`): for
the check of one part, for a part as a whole, and then for the line (`parse_orRefused`).

All this is about variables whose values are text, as those of `Environment` are.
-/

namespace LspClient.Cli

/-! ### Variables -/

/-- The variable that stands in for an option, where there is one. -/
def Environment.get (env : Environment) : ValueOption → Option String
  | .host => env.host
  | .port => env.port
  | .path => env.path
  | .timeout => env.timeout
  | _ => none

/-- Two environments differ in the variable of an option at most. -/
def Environment.AgreesBut (env env' : Environment) (o : ValueOption) : Prop :=
  ∀ o', o' ≠ o → env.get o' = env'.get o'

/-- The variable of an option is not set, or its value can be read. -/
def Environment.IsReadable (env : Environment) (o : ValueOption) : Prop :=
  ∀ s ∈ env.get o, ∃ a, o.read s = .ok a

section

variable {env env' : Environment} {o : ValueOption} {g top within : Given} {e : Refusal}

/-- Every text is a host, and a path. -/
theorem Environment.isReadable_of_text (h : o = .host ∨ o = .path) (env : Environment) :
    env.IsReadable o := by
  rintro s -
  obtain rfl | rfl := h
  · exact ⟨s, rfl⟩
  · exact ⟨s, rfl⟩

theorem Environment.AgreesBut.symm (h : env.AgreesBut env' o) : env'.AgreesBut env o :=
  fun o' ho ↦ (h o' ho).symm

/-- Only the variables of two options may have values that cannot be read. -/
theorem forall_isReadable_iff {P : ValueOption → Prop} : (∀ o, P o → env.IsReadable o) ↔
    (P .port → env.IsReadable .port) ∧ (P .timeout → env.IsReadable .timeout) := by
  constructor
  · exact fun h ↦ ⟨h .port, h .timeout⟩
  · rintro ⟨hport, htimeout⟩ o ho
    cases o with
    | host => exact env.isReadable_of_text (.inl rfl)
    | path => exact env.isReadable_of_text (.inr rfl)
    | port => exact hport ho
    | timeout => exact htimeout ho
    | _ => nofun

/-! ### What is read of the environment -/

/-- Nothing goes wrong with a value that is given, or is not set, or can be read. -/
theorem exists_orElse_iff {α : Type} (given : Option α) (read : String → Except Refusal α)
    (fallback : Option String) : (∃ x, orElse given read fallback = .ok x) ↔
      (given = none → ∀ s ∈ fallback, ∃ a, read s = .ok a) := by
  cases given with
  | some a => simp [orElse]
  | none =>
    cases fallback with
    | none => simp [orElse]
    | some s => cases h : read s <;> simp [orElse, h, Except.map]

/-- A part of the line passes the check if the variables of what it leaves open can be read. -/
theorem checkEnvironment_eq_ok_iff :
    checkEnvironment env g = .ok () ↔ ∀ o, g.get o = none → env.IsReadable o := by
  have hboth : checkEnvironment env g = .ok () ↔
      (∃ x, orElse g.port readPort env.port = .ok x) ∧
        ∃ x, orElse g.timeout readTimeout env.timeout = .ok x := by
    simp [checkEnvironment, bind_eq_ok_iff, pure, Except.pure]
  rw [hboth, exists_orElse_iff, exists_orElse_iff, forall_isReadable_iff]
  rfl

theorem readPort_eq_error {s : String} (h : readPort s = .error e) : e = .valueValidation := by
  rw [readPort, readNumber] at h
  split at h <;> cases h
  rfl

theorem readTimeout_eq_error {s : String} (h : readTimeout s = .error e) :
    e = .valueValidation := by
  rw [readTimeout] at h
  split at h <;> cases h
  rfl

/-- Only a value in the environment that cannot be read is a mistake. -/
theorem exists_of_orElse_eq_error {α : Type} {given : Option α} {read : String → Except Refusal α}
    {fallback : Option String} (h : orElse given read fallback = .error e) :
    ∃ s, read s = .error e := by
  rw [orElse.eq_def] at h
  split at h
  case h_1 => cases h
  case h_2 s =>
    refine ⟨s, ?_⟩
    cases hs : read s <;> simp_all [Except.map]
  case h_3 => cases h

/-- A variable that cannot be read is refused for its value. -/
theorem checkEnvironment_eq_error (h : checkEnvironment env g = .error e) :
    e = .valueValidation := by
  simp only [checkEnvironment, bind_eq_error_iff] at h
  obtain hport | ⟨_, -, htimeout | ⟨_, -, h⟩⟩ := h
  · obtain ⟨s, hs⟩ := exists_of_orElse_eq_error hport
    exact readPort_eq_error hs
  · obtain ⟨s, hs⟩ := exists_of_orElse_eq_error htimeout
    exact readTimeout_eq_error hs
  · cases h

/-! ### Two outcomes -/

/-- An outcome is another one, or else a value is refused. -/
def OrRefused {α : Type} (x x' : Except Refusal α) : Prop :=
  x' = x ∨ x' = .error .valueValidation

theorem OrRefused.refl {α : Type} (x : Except Refusal α) : OrRefused x x :=
  .inl rfl

/-- Two outcomes that are each the other, or else refuse a value, are the same. -/
theorem OrRefused.antisymm {α : Type} {x x' : Except Refusal α} (h : OrRefused x x')
    (h' : OrRefused x' x) : x = x' := by
  obtain h | h := h
  · exact h.symm
  · obtain h' | h' := h'
    · exact h'
    · rw [h, h']

/-- What comes of two steps compares so if what comes of each of them does. -/
theorem OrRefused.bind {α β : Type} {x x' : Except Refusal α} {f f' : α → Except Refusal β}
    (h : OrRefused x x') (hf : ∀ a, x = .ok a → OrRefused (f a) (f' a)) :
    OrRefused (x >>= f) (x' >>= f') := by
  obtain rfl | rfl := h
  · cases x' with
    | ok a => exact hf a rfl
    | error e => exact .refl _
  · exact .inr rfl

/-- An environment in which no more can be read than in another lets pass what the other does, or
refuses a value. -/
theorem checkEnvironment_orRefused
    (h : ∀ o, g.get o = none → env'.IsReadable o → env.IsReadable o) :
    OrRefused (checkEnvironment env g) (checkEnvironment env' g) := by
  cases hg : checkEnvironment env' g with
  | error e => exact .inr (congrArg _ (checkEnvironment_eq_error hg))
  | ok u =>
    rw [checkEnvironment_eq_ok_iff] at hg
    exact .inl (checkEnvironment_eq_ok_iff.2 fun o ho ↦ h o ho (hg o ho)).symm

theorem complete_orRefused {place : Place} {p : Progress}
    (h : ∀ g, p.final = .ok g → ∀ o, g.get o = none → env'.IsReadable o → env.IsReadable o) :
    OrRefused (complete env place p) (complete env' place p) := by
  rw [complete_eq, complete_eq]
  exact .bind (.refl _) fun g hg ↦ .bind (checkEnvironment_orRefused (h g hg)) fun _ _ ↦ .refl _

/-- A value that is given leaves nothing to the environment. -/
theorem orElse_congr {α : Type} {given : Option α} {fallback fallback' : Option String}
    (h : given = none → fallback = fallback') (read : String → Except Refusal α) :
    orElse given read fallback = orElse given read fallback' := by
  cases given with
  | some a => rfl
  | none => rw [h rfl]

theorem or_congr_of_none {α : Type} {given fallback fallback' : Option α}
    (h : given = none → fallback = fallback') : given.or fallback = given.or fallback' := by
  cases given with
  | some a => rfl
  | none => rw [h rfl]

/-- The variables of the options that are given do not matter for what holds. -/
theorem merge_congr (h : ∀ o, (within.get o).or (top.get o) = none → env.get o = env'.get o) :
    merge env top within = merge env' top within := by
  have hhost : (within.host.or top.host).or env.host = (within.host.or top.host).or env'.host :=
    or_congr_of_none (h .host)
  have hpath : (within.path.or top.path).or env.path = (within.path.or top.path).or env'.path :=
    or_congr_of_none (h .path)
  have hport : orElse (within.port.or top.port) readPort env.port =
      orElse (within.port.or top.port) readPort env'.port :=
    orElse_congr (h .port) readPort
  have htimeout : orElse (within.timeout.or top.timeout) readTimeout env.timeout =
      orElse (within.timeout.or top.timeout) readTimeout env'.timeout :=
    orElse_congr (h .timeout) readTimeout
  simp only [merge, hhost, hpath, hport, htimeout]

namespace Environment.AgreesBut

/-- Where environments agree, a variable can be read in both or in neither. -/
theorem isReadable_iff (h : env.AgreesBut env' o) {o' : ValueOption} (ho : o' ≠ o) :
    env.IsReadable o' ↔ env'.IsReadable o' := by
  rw [IsReadable, IsReadable, h o' ho]

/-- Where only one variable differs, it is not looked at for a part that gives its option. -/
theorem complete_orRefused (hagrees : env.AgreesBut env' o) {place : Place} {p : Progress}
    (h : ∀ g, p.final = .ok g → g.get o ≠ none ∨ (env'.IsReadable o → env.IsReadable o)) :
    OrRefused (complete env place p) (complete env' place p) := by
  refine Cli.complete_orRefused fun g hg o' ho' hread ↦ ?_
  by_cases ho : o' = o
  · subst ho
    exact (h g hg).resolve_left (absurd ho') hread
  · exact (hagrees.isReadable_iff ho).2 hread

/-- A variable makes no difference to what is put together, if its option is given on either side.
-/
theorem merge_eq (hagrees : env.AgreesBut env' o) (h : within.get o ≠ none ∨ top.get o ≠ none) :
    merge env top within = merge env' top within := by
  refine merge_congr fun o' ho' ↦ hagrees o' ?_
  rintro rfl
  obtain ⟨hwithin, htop⟩ := Option.or_eq_none_iff.1 ho'
  exact h.elim (absurd hwithin) (absurd htop)

end Environment.AgreesBut

/-! ### Lines -/

variable {args : List String}

/-- **What a variable can change.** Where an option is given and its variable can be read, another
value of the variable changes nothing, but may be refused. Where the option is on both sides of the
command or there is none, the variable need not be one that can be read. -/
theorem parse_orRefused (hgiven : o.isGivenBy args = true) (hagrees : env.AgreesBut env' o)
    (h : (env'.IsReadable o → env.IsReadable o) ∨ ¬o.IsOnOneSide args) :
    OrRefused (parse env args) (parse env' args) := by
  rw [parse, parse]
  refine .bind (.refl _) ?_
  rintro ⟨p, rest⟩ hread
  cases rest with
  | none =>
    have hget : ∀ top, p.final = .ok top → top.get o ≠ none :=
      fun _ ↦ get_ne_none_of_readTop hgiven hread
    refine .bind (hagrees.complete_orRefused fun top htop ↦ .inl (hget top htop)) fun top htop ↦ ?_
    have htop := hget top (complete_eq_ok_iff.1 htop).1
    exact .inl (by rw [hagrees.merge_eq (.inr htop)])
  | some found =>
    obtain ⟨name, after⟩ := found
    refine .bind (.refl _) fun p' hp' ↦ ?_
    have hsides := fun (within : Given) (hwithin : p'.final = .ok within) ↦
      sides_of_readTop hgiven hread (bind_eq_ok_iff.2 ⟨p', hp', hwithin⟩)
    -- the arguments of the command are completed first, whatever stands before the command
    refine .bind (hagrees.complete_orRefused fun within hwithin ↦ ?_) fun within hwithin ↦ ?_
    · exact h.symm.imp_left fun hside ↦ ((hsides within hwithin).1 hside).1
    obtain ⟨hboth, hone⟩ := hsides within (complete_eq_ok_iff.1 hwithin).1
    refine .bind (hagrees.complete_orRefused fun top htop ↦ ?_) fun top htop ↦ ?_
    · exact h.symm.imp_left fun hside ↦ (hboth hside).2 top htop
    have hget := hone top (complete_eq_ok_iff.1 htop).1
    exact .inl (by rw [hagrees.merge_eq hget])

/-- A line that is carried out leaves no option open, on either side, whose variable cannot be
read. -/
theorem isReadable_of_parse {i : Invocation} (hside : o.IsOnOneSide args)
    (h : parse env args = .ok i) : env.IsReadable o := by
  obtain ⟨items, name, items', hline, hside⟩ := hside
  obtain ⟨top, htop, hchecked, within, hwithin, hchecked', -⟩ := hline.parse_eq_ok_iff.1 h
  by_contra hread
  have hgives : ∀ {place : Place} {items : List Item} {g : Given},
      Given.ofItems place items = .ok g → Checked env place g → o.IsAmong items :=
    fun hitems hchecked ↦ (Given.get_ne_none_iff hitems).1 fun hnone ↦
      hread (checkEnvironment_eq_ok_iff.1 hchecked.environment o hnone)
  exact hside (iff_of_true (hgives htop hchecked) (hgives hwithin hchecked'))

/-- **An option that is given, and its variable.** Take a line that gives an option, and two
environments, with text for the values, that differ at most in the variable of the option. What is
asked for, or why the line is refused, is the same in both, if every text is a value of the option,
if the variable can be read in both environments or in neither, or if the option is not on one side
of a command only. Otherwise the line is refused where the variable cannot be read, for that reason
or for the one that there is in the other environment too. -/
theorem parse_variable_of_given (hgiven : o.isGivenBy args = true)
    (hagrees : env.AgreesBut env' o) :
    (o = .host ∨ o = .path ∨ (env.IsReadable o ↔ env'.IsReadable o) ∨ ¬o.IsOnOneSide args →
      parse env args = parse env' args) ∧
    (env.IsReadable o → ¬env'.IsReadable o → o.IsOnOneSide args →
      (∀ i, parse env args = .ok i → parse env' args = .error .valueValidation) ∧
      ∀ e, parse env args = .error e →
        parse env' args = .error e ∨ parse env' args = .error .valueValidation) := by
  constructor
  · intro h
    have hsame : (env.IsReadable o ↔ env'.IsReadable o) ∨ ¬o.IsOnOneSide args := by
      rw [← or_assoc] at h
      refine h.elim (fun htext ↦ .inl ?_) id
      exact iff_of_true (env.isReadable_of_text htext) (env'.isReadable_of_text htext)
    exact (parse_orRefused hgiven hagrees (hsame.imp_left Iff.mpr)).antisymm
      (parse_orRefused hgiven hagrees.symm (hsame.imp_left Iff.mp))
  · intro hread hunread hside
    have hor := parse_orRefused hgiven hagrees (.inl fun _ ↦ hread)
    refine ⟨fun i hi ↦ hor.resolve_left fun hsame ↦ ?_, fun e he ↦ ?_⟩
    · exact hunread (isReadable_of_parse hside (hsame.trans hi))
    · rw [← he]
      exact hor

end

/-! ### A port on one side of the command -/

/-- What is asked for by a call of a method on port 80. -/
def callOnPort80 : Invocation where
  globals :=
    { host := "localhost", port := 80, path := "/", timeout := none, idStyle := .uuid,
      paramsStyle := .positional, framing := .contentLength, tcp := false, stdio := none,
      debug := 0 }
  command := some (.call "m" none)

/-- The variable that stands in for the port. -/
def portVariable (s : String) : Environment :=
  { port := some s }

/-- Only the variable for the port is set. -/
theorem agreesBut_portVariable (s : String) :
    ({} : Environment).AgreesBut (portVariable s) .port := by
  intro o ho
  cases o with
  | port => exact absurd rfl ho
  | _ => rfl

theorem parse_variable_of_given_behind :
    ValueOption.port.isGivenBy ["call", "-p80", "m"] = true ∧
    (({} : Environment).AgreesBut (portVariable "70") .port ∧
      parse (portVariable "70") ["call", "-p80", "m"] = .ok callOnPort80) ∧
    ({} : Environment).AgreesBut (portVariable "x") .port ∧
      parse (portVariable "x") ["call", "-p80", "m"] = .error .valueValidation := by
  have hgiven : ValueOption.port.isGivenBy ["call", "-p80", "m"] = true := by
    decide
  have hparse : parse {} ["call", "-p80", "m"] = .ok callOnPort80 := by
    rfl
  have hempty : ({} : Environment).IsReadable .port := nofun
  have hread : (portVariable "70").IsReadable .port := by
    rintro _ ⟨⟩
    exact ⟨(70 : UInt16), rfl⟩
  have hunread : ¬(portVariable "x").IsReadable .port := by
    intro h
    obtain ⟨_, ⟨⟩⟩ := h "x" rfl
  have hword : Word (.within .call) "-p80".toList [.value .port "80"] none :=
    @Word.letters _ 'p' ['8', '0'] _ _ (by decide) (.attached rfl (by decide))
  have hside : ValueOption.port.IsOnOneSide ["call", "-p80", "m"] := by
    refine ⟨[], .call, [.value .port "80", .argument "m"], ?_, ?_⟩
    · exact .withCommand List.not_mem_nil .nil rfl
        (.word hword (.argument (by decide) (by decide) .nil))
    · simp
  refine ⟨hgiven, ⟨agreesBut_portVariable "70", ?_⟩, agreesBut_portVariable "x", ?_⟩
  · rw [← hparse]
    exact ((parse_variable_of_given hgiven (agreesBut_portVariable "70")).1
      (.inr (.inr (.inl (iff_of_true hempty hread))))).symm
  · exact ((parse_variable_of_given hgiven (agreesBut_portVariable "x")).2 hempty hunread hside).1
      _ hparse

/-- A port that is given before the command does not keep its variable from being read behind it. -/
theorem parse_reads_variable : ¬∀ (o : ValueOption) (args : List String) (env env' : Environment),
    o.isGivenBy args = true → env.AgreesBut env' o → parse env args = parse env' args := by
  intro h
  have hsame := h .port ["--port", "80", "call", "m"] {} (portVariable "x") (by decide)
    (agreesBut_portVariable "x")
  have hparse : parse {} ["--port", "80", "call", "m"] = .ok callOnPort80 := by
    rfl
  have hrefused : parse (portVariable "x") ["--port", "80", "call", "m"] =
      .error .valueValidation := by
    rfl
  rw [hparse, hrefused] at hsame
  cases hsame

end LspClient.Cli
