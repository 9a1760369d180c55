import LspClient.Proofs.Cli.Given
import LspClient.Proofs.Cli.Parse
import Mathlib.Data.List.TakeWhile

/-!
# Options that a line gives

Whether a command line gives an option can be seen in its words, without reading the line: before
any two dashes there is a word that names the option (`ValueOption.isGivenBy`). On a line that has
the form of one, this says that the option has a value on one side of the command or the other
(`Line.isGivenBy_iff`), since a word that names an option is never a value, a command or an
argument. So the option is found in what the sides of the line give once they are read
(`get_ne_none_of_readTop`, `sides_of_readTop`).
-/

namespace LspClient.Cli

/-! ### Words that name an option -/

namespace ValueOption

/-- Whether an option is among options of one letter each. What stands behind the first that takes a
value is that value. -/
def isAmongLetters (o : ValueOption) : List Char → Bool
  | [] => false
  | c :: s =>
    match shortOption? c with
    | some (.flag _) => o.isAmongLetters s
    | some (.value o') => o' = o
    | none => false

/-- Whether a word names an option, by its long name, to which a value may be attached, or by its
letter. -/
def isNamedBy (o : ValueOption) (s : String) : Bool :=
  match s.toList with
  | '-' :: '-' :: s => longOption? (.ofList (s.takeWhile (· != '='))) = some (.value o)
  | '-' :: s => o.isAmongLetters s
  | _ => false

/-- Whether an option is given on a command line. Behind two dashes there are only arguments. -/
def isGivenBy (o : ValueOption) (args : List String) : Bool :=
  (args.takeWhile (· != "--")).any o.isNamedBy

/-- A line has a command, and gives an option on one side of it only. -/
def IsOnOneSide (o : ValueOption) (args : List String) : Prop :=
  ∃ items name items', Line args items (some (name, items')) ∧ ¬(o.IsAmong items ↔ o.IsAmong items')

end ValueOption

section

variable {place : Place} {o : ValueOption} {items : List Item} {next : Option ValueOption}
  {s : String} {cs : List Char} {args : List String}

theorem Letters.isAmongLetters_iff (h : Letters place cs items next) :
    o.isAmongLetters cs = true ↔ next = some o ∨ o.IsAmong items := by
  induction h with
  | flag h =>
    have hc := (Option.filter_eq_some_iff.1 h).1
    simp [ValueOption.isAmongLetters, hc]
  | flags h _ ih =>
    have hc := (Option.filter_eq_some_iff.1 h).1
    simp [ValueOption.isAmongLetters, hc, ih]
  | attached h hs =>
    have hc := (Option.filter_eq_some_iff.1 h).1
    simp [ValueOption.isAmongLetters, hc]
  | next h =>
    have hc := (Option.filter_eq_some_iff.1 h).1
    simp [ValueOption.isAmongLetters, hc]

theorem takeWhile_name {name : List Char} (hname : '=' ∉ name) :
    name.takeWhile (· != '=') = name :=
  List.takeWhile_eq_self_iff.2 fun _ hc ↦ bne_iff_ne.2 (ne_of_mem_of_not_mem hc hname)

/-- The name of an option ends where its value is attached. -/
theorem takeWhile_attached {name : List Char} (hname : '=' ∉ name) (v : List Char) :
    (name ++ '=' :: v).takeWhile (· != '=') = name := by
  rw [List.takeWhile_append_of_pos fun _ hc ↦ bne_iff_ne.2 (ne_of_mem_of_not_mem hc hname)]
  simp

/-- A word for options names one if it says its value, or asks for it. -/
theorem Word.isNamedBy_iff (h : Word place s.toList items next) :
    o.isNamedBy s = true ↔ next = some o ∨ o.IsAmong items := by
  rw [ValueOption.isNamedBy]
  generalize s.toList = cs at h
  cases h with
  | flag hname h =>
    have hf := (Option.filter_eq_some_iff.1 h).1
    simp [takeWhile_name hname, hf]
  | attached hname h =>
    have hf := (Option.filter_eq_some_iff.1 h).1
    simp [takeWhile_attached hname, hf]
  | next hname h =>
    have hf := (Option.filter_eq_some_iff.1 h).1
    simp [takeWhile_name hname, hf]
  | letters hc h =>
    rw [← h.isAmongLetters_iff]
    grind

/-- A word that names an option is no value, and no command. -/
theorem ValueOption.isNamedBy_eq_false (hs : isOption s = false) : o.isNamedBy s = false := by
  rw [isOption] at hs
  rw [isNamedBy]
  split
  case h_1 heq => simp [heq] at hs
  case h_2 cs _ heq =>
    cases cs with
    | nil => rfl
    | cons c cs => simp [heq] at hs
  case h_3 => rfl

theorem ValueOption.isGivenBy_cons (hs : s ≠ "--") :
    o.isGivenBy (s :: args) = (o.isNamedBy s || o.isGivenBy args) := by
  simp [isGivenBy, hs]

/-- A word that is not written as an option gives none. -/
theorem ValueOption.isGivenBy_cons_of_not_isOption (hs : isOption s = false) :
    o.isGivenBy (s :: args) = o.isGivenBy args := by
  have hdashes : s ≠ "--" := by
    rintro rfl
    cases hs
  rw [isGivenBy_cons hdashes, isNamedBy_eq_false hs, Bool.false_or]

theorem ValueOption.isGivenBy_append {before : List String} (hend : "--" ∉ before)
    (after : List String) :
    o.isGivenBy (before ++ after) = (o.isGivenBy before || o.isGivenBy after) := by
  have hall : ∀ s ∈ before, (s != "--") = true :=
    fun s hs ↦ bne_iff_ne.2 (ne_of_mem_of_not_mem hs hend)
  simp only [isGivenBy]
  rw [List.takeWhile_append_of_pos hall, List.any_append, List.takeWhile_eq_self_iff.2 hall]

theorem Word.ne_dashes (h : Word place s.toList items next) : s ≠ "--" := by
  rintro rfl
  obtain ⟨c, t, h | ⟨h, hc⟩⟩ := h.exists_cons
  · simp at h
  · simp at h
    exact hc h.1.symm

/-- An option is given in a part of the line if it has a value among the items of the part. -/
theorem Part.isGivenBy_iff (h : Part place args items) :
    o.isGivenBy args = true ↔ o.IsAmong items := by
  induction h with
  | nil => simp [ValueOption.isGivenBy]
  | word hs _ ih =>
    rw [ValueOption.isGivenBy_cons hs.ne_dashes, Bool.or_eq_true, hs.isNamedBy_iff, ih]
    simp
  | wordAndValue hs hv _ ih =>
    rw [ValueOption.isGivenBy_cons hs.ne_dashes, Bool.or_eq_true, hs.isNamedBy_iff,
      ValueOption.isGivenBy_cons_of_not_isOption hv, ih, ValueOption.isAmong_append,
      ValueOption.isAmong_value_cons, Option.some_inj]
    tauto
  | argument _ hs _ ih =>
    rw [ValueOption.isGivenBy_cons_of_not_isOption hs, ih, ValueOption.isAmong_argument_cons]
  | rest args => simp [ValueOption.isGivenBy, ValueOption.IsAmong]

/-- An option is given on a line if it has a value on one side of the command or the other. -/
theorem Line.isGivenBy_iff {rest : Option (CommandName × List Item)} (h : Line args items rest) :
    o.isGivenBy args = true ↔ o.IsAmong items ∨ ∃ w ∈ rest, o.IsAmong w.2 := by
  cases h with
  | alone h => simp [h.isGivenBy_iff]
  | @withCommand before after word name _ items' hend h hname h' =>
    have hword : isOption word = false := by
      refine Bool.eq_false_iff.2 fun hword ↦ ?_
      rw [(commandName?_of_isOption hword).1] at hname
      cases hname
    rw [ValueOption.isGivenBy_append hend, ValueOption.isGivenBy_cons_of_not_isOption hword,
      Bool.or_eq_true, h.isGivenBy_iff, h'.isGivenBy_iff]
    simp

/-- Letters may stand together, and behind two dashes no option is given. -/
example : ValueOption.port.isGivenBy ["call", "-dp80", "m"] = true ∧
    ValueOption.port.isGivenBy ["call", "--", "--port=80"] = false := by
  decide

/-- An option that is given on a line with a command, and not on one side of it only, is given on
both sides. -/
theorem Line.given_on_both {name : CommandName} {items' : List Item}
    (h : Line args items (some (name, items'))) (ho : o.isGivenBy args = true)
    (hside : ¬o.IsOnOneSide args) : o.IsAmong items ∧ o.IsAmong items' := by
  have hboth : o.IsAmong items ↔ o.IsAmong items' := by
    by_contra hne
    exact hside ⟨items, name, items', h, hne⟩
  obtain hitems | ⟨_, ⟨⟩, hitems'⟩ := h.isGivenBy_iff.1 ho
  · exact ⟨hitems, hboth.1 hitems⟩
  · exact ⟨hboth.2 hitems', hitems'⟩

/-! ### Lines that are read -/

/-- Where there is no command, an option that is given has a value once the line is read. -/
theorem get_ne_none_of_readTop {p : Progress} {top : Given} (ho : o.isGivenBy args = true)
    (h : readTop {} args = .ok (p, none)) (htop : p.final = .ok top) : top.get o ≠ none := by
  obtain ⟨items, hline, hitems⟩ := exists_line_of_readTop h top htop
  exact (Given.get_ne_none_iff hitems).2 (by simpa using hline.isGivenBy_iff.1 ho)

/-- Where there is one, the option has a value on one side at least, and on both if it is not on one
side only. The part before the command may still turn out not to be readable to its end. -/
theorem sides_of_readTop {p : Progress} {name : CommandName} {after : List String} {within : Given}
    (ho : o.isGivenBy args = true) (h : readTop {} args = .ok (p, some (name, after)))
    (hwithin : Progress.finish (.within name) {} after = .ok within) :
    (¬o.IsOnOneSide args →
      within.get o ≠ none ∧ ∀ top, p.final = .ok top → top.get o ≠ none) ∧
    ∀ top, p.final = .ok top → within.get o ≠ none ∨ top.get o ≠ none := by
  obtain ⟨items, items', hline, hitems', hitems⟩ := exists_line_of_readTop h within hwithin
  rw [Given.get_ne_none_iff hitems']
  refine ⟨fun hside ↦ ?_, fun top htop ↦ ?_⟩
  · obtain ⟨hbefore, hbehind⟩ := hline.given_on_both ho hside
    exact ⟨hbehind, fun top htop ↦ (Given.get_ne_none_iff (hitems top htop)).2 hbefore⟩
  · rw [Given.get_ne_none_iff (hitems top htop)]
    simpa [or_comm] using hline.isGivenBy_iff.1 ho

end

end LspClient.Cli
