import LspClient.Cli.Parser

/-!
# The forms of a command line

What is written on a command line, apart from how it is read. A part of the line, before the command
or behind it, is a sequence of words for options and of arguments (`Part`), and says what is given
there in order. An option may be written by its long name or, with others, by one letter, and its
value may be attached or come next.
-/

namespace LspClient.Cli

/-! ### The forms of a line -/

/-- What is written in a part of a command line. -/
inductive Item where
  | flag (f : Flag)
  | value (o : ValueOption) (s : String)
  | argument (s : String)
  deriving DecidableEq, Repr

/-- Whether a word is written as an option is. -/
def isOption (s : String) : Bool :=
  match s.toList with
  | '-' :: _ :: _ => true
  | _ => false

/-- The value that is attached to an option of one letter. -/
def attachedText : List Char → List Char
  | '=' :: s => s
  | s => s

/-- Options of one letter each: what they say, and the option whose value is the next word. -/
inductive Letters (place : Place) : List Char → List Item → Option ValueOption → Prop where
  | flag {c : Char} {f : Flag}
      (h : (shortOption? c).filter (Choice.allowed place) = some (.flag f)) :
      Letters place [c] [.flag f] none
  | flags {c : Char} {f : Flag} {s : List Char} {items : List Item} {next : Option ValueOption}
      (h : (shortOption? c).filter (Choice.allowed place) = some (.flag f))
      (hs : Letters place s items next) : Letters place (c :: s) (.flag f :: items) next
  | attached {c : Char} {o : ValueOption} {s : List Char}
      (h : (shortOption? c).filter (Choice.allowed place) = some (.value o)) (hs : s ≠ []) :
      Letters place (c :: s) [.value o (.ofList (attachedText s))] none
  | next {c : Char} {o : ValueOption}
      (h : (shortOption? c).filter (Choice.allowed place) = some (.value o)) :
      Letters place [c] [] (some o)

/-- A word for options: what it says, and the option whose value is the next word. -/
inductive Word (place : Place) : List Char → List Item → Option ValueOption → Prop where
  | flag {name : List Char} {f : Flag} (hname : '=' ∉ name)
      (h : (longOption? (.ofList name)).filter (Choice.allowed place) = some (.flag f)) :
      Word place ('-' :: '-' :: name) [.flag f] none
  | attached {name s : List Char} {o : ValueOption} (hname : '=' ∉ name)
      (h : (longOption? (.ofList name)).filter (Choice.allowed place) = some (.value o)) :
      Word place ('-' :: '-' :: (name ++ '=' :: s)) [.value o (.ofList s)] none
  | next {name : List Char} {o : ValueOption} (hname : '=' ∉ name)
      (h : (longOption? (.ofList name)).filter (Choice.allowed place) = some (.value o)) :
      Word place ('-' :: '-' :: name) [] (some o)
  | letters {c : Char} {s : List Char} {items : List Item} {next : Option ValueOption}
      (hc : c ≠ '-') (h : Letters place (c :: s) items next) : Word place ('-' :: c :: s) items next

/-- A part of a command line, and what is written in it. -/
inductive Part (place : Place) : List String → List Item → Prop where
  | nil : Part place [] []
  | word {s : String} {items items' : List Item} {args : List String}
      (hs : Word place s.toList items none) (h : Part place args items') :
      Part place (s :: args) (items ++ items')
  | wordAndValue {s v : String} {o : ValueOption} {items items' : List Item} {args : List String}
      (hs : Word place s.toList items (some o)) (hv : isOption v = false)
      (h : Part place args items') : Part place (s :: v :: args) (items ++ .value o v :: items')
  | argument {s : String} {items : List Item} {args : List String} (hplace : place ≠ .top)
      (hs : isOption s = false) (h : Part place args items) :
      Part place (s :: args) (.argument s :: items)
  /-- Behind two dashes there are only arguments. -/
  | rest (args : List String) : Part place ("--" :: args) (args.map .argument)

/-- A command line: what is written before the command, and the command with what is written behind
it. -/
inductive Line : List String → List Item → Option (CommandName × List Item) → Prop where
  | alone {args : List String} {items : List Item} (h : Part .top args items) : Line args items none
  | withCommand {before after : List String} {name : String} {command : CommandName}
      {items items' : List Item} (hend : "--" ∉ before) (h : Part .top before items)
      (hname : commandName? name = some command) (h' : Part (.within command) after items') :
      Line (before ++ name :: after) items (some (command, items'))

/-! ### What is given -/

/-- How many arguments there may be in a part of the line. -/
def Place.capacity : Place → Nat
  | .top => 0
  | .within command => Progress.capacity command

/-- What a part gives with one more item. -/
def Given.take (place : Place) (g : Given) : Item → Except Refusal Given
  | .flag f => g.raise f
  | .value o s => g.set o s
  | .argument s =>
    if g.arguments.length < place.capacity then .ok { g with arguments := g.arguments ++ [s] }
    else .error .unknownArgument

/-- What the items of a part give, one after another. -/
def Given.ofItems (place : Place) (items : List Item) : Except Refusal Given :=
  items.foldlM (Given.take place) {}

/-- What a part of the line gives is complete and holds together. -/
structure Checked (env : Environment) (place : Place) (g : Given) : Prop where
  environment : checkEnvironment env g = .ok ()
  oneTransport : namesTwoTransports g = false
  arguments : lacksArgument place g = false

theorem bind_eq_ok_iff {α β : Type} {x : Except Refusal α} {f : α → Except Refusal β} {b : β} :
    (x >>= f) = .ok b ↔ ∃ a, x = .ok a ∧ f a = .ok b := by
  cases x with
  | ok a => simp [bind, Except.bind]
  | error e => simp [bind, Except.bind]

theorem bind_eq_error_iff {α β : Type} {x : Except Refusal α} {f : α → Except Refusal β}
    {e : Refusal} : (x >>= f) = .error e ↔ x = .error e ∨ ∃ a, x = .ok a ∧ f a = .error e := by
  cases x with
  | ok a => simp [bind, Except.bind]
  | error e => simp [bind, Except.bind]

end LspClient.Cli
