import LspClient.Json.Skipper
import LspClient.Proofs.Json.Tokens

/-!
# Skipping what the grammar derives

The skipping reader passes over every value of the grammar and stops right behind it
(`skipFrom_derives`), whatever is open around the value and however deep it is nested. It walks a
text as a derivation does: each container that it enters it leaves again at the end of the
container, with the same stack.
-/

namespace LspClient.Json

variable {stack : List Container} {s r u w : List Char} {c : Char}

/-! ### Single steps -/

namespace Container

/-- The character that opens a container. -/
def opening : Container → Char
  | .array => '['
  | .object => '{'

/-- The character that closes a container. -/
def closing : Container → Char
  | .array => ']'
  | .object => '}'

/-- What an item of a container begins with. -/
def item : Container → Awaited
  | .array => .value
  | .object => .name

theorem isSpace_closing (k : Container) : isSpace k.closing = false := by
  cases k <;> decide

end Container

theorem skipFrom_scalar (hs : skipSpace s = c :: r) (harray : c ≠ '[') (hobject : c ≠ '{')
    (hu : skipScalar (c :: r) = .ok u) :
    skipFrom .value stack s = skipFrom .separator stack u := by
  rw [skipFrom.eq_def]
  grind

/-- An empty container is passed over at once. -/
theorem skipFrom_empty (k : Container) (hs : skipSpace s = k.opening :: r)
    (hr : skipSpace r = k.closing :: u) :
    skipFrom .value stack s = skipFrom .separator stack u := by
  rw [skipFrom.eq_def]
  cases k <;> grind [Container.opening, Container.closing]

/-- Any other container is entered. -/
theorem skipFrom_open (k : Container) (hs : skipSpace s = k.opening :: r)
    (hr : skipSpace r = c :: u) (hc : c ≠ k.closing) :
    skipFrom .value stack s = skipFrom k.item (k :: stack) (c :: u) := by
  rw [skipFrom.eq_def]
  cases k <;> grind [Container.opening, Container.closing, Container.item]

/-- A container whose items are passed over is passed over itself. -/
theorem skipFrom_container (k : Container) (hs : skipSpace s = k.opening :: r)
    (hitems : (∃ c w, skipSpace (skipSpace r) = c :: w ∧ c ≠ k.closing) ∧
      skipFrom k.item (k :: stack) (skipSpace r) = skipFrom .separator stack u) :
    skipFrom .value stack s = skipFrom .separator stack u := by
  obtain ⟨⟨c, w, hr, hc⟩, hskip⟩ := hitems
  rw [skipSpace_idem] at hr
  rw [skipFrom_open k hs hr hc, ← hr]
  exact hskip

theorem skipFrom_comma (k : Container) (hs : skipSpace s = ',' :: r) :
    skipFrom .separator (k :: stack) s = skipFrom k.item (k :: stack) r := by
  rw [skipFrom.eq_def]
  cases k <;> grind [Container.item]

theorem skipFrom_close (k : Container) (hs : skipSpace s = k.closing :: r) :
    skipFrom .separator (k :: stack) s = skipFrom .separator stack r := by
  rw [skipFrom.eq_def]
  cases k <;> grind [Container.closing]

theorem skipFrom_name (hs : skipSpace s = '"' :: r) (hr : skipString r = .ok u)
    (hu : skipSpace u = ':' :: w) : skipFrom .name stack s = skipFrom .value stack w := by
  rw [skipFrom.eq_def]
  grind

theorem skipFrom_nil (s : List Char) : skipFrom .separator [] s = .ok s := by
  rw [skipFrom.eq_def]

/-! ### Scalars -/

/-- An unsigned number begins with a digit. -/
theorem IsUnsigned.exists_cons (h : IsUnsigned s) : ∃ c r, s = c :: r ∧ c.isDigit = true := by
  cases h with
  | mk hinteger _ _ =>
    cases hinteger with
    | zero => exact ⟨'0', _, rfl, by decide⟩
    | digits hne hall => exact ⟨_, _, rfl, hall _ List.mem_cons_self⟩

theorem ne_of_isDigit (h : c.isDigit = true) {d : Char} (hd : d.isDigit = false) : c ≠ d := by
  rintro rfl
  rw [h] at hd
  cases hd

theorem skipScalar_natural (h : IsUnsigned s) {rest : List Char} (hrest : Stops rest) :
    skipScalar (s ++ rest) = .ok rest := by
  have hskip := skipNumber_append h hrest
  obtain ⟨c, r, rfl, hc⟩ := h.exists_cons
  have hn : c ≠ 'n' := ne_of_isDigit hc (by decide)
  have ht : c ≠ 't' := ne_of_isDigit hc (by decide)
  have hf : c ≠ 'f' := ne_of_isDigit hc (by decide)
  have hquote : c ≠ '"' := ne_of_isDigit hc (by decide)
  have hminus : c ≠ '-' := ne_of_isDigit hc (by decide)
  rw [List.cons_append] at hskip ⊢
  rw [skipScalar.eq_def]
  grind

/-! ### Values -/

/-- A value begins with its own mark, which is neither a blank nor the end of a container. -/
theorem Derives.exists_cons (h : Derives .value s) :
    ∃ c r, s = c :: r ∧ isSpace c = false ∧ c ≠ ']' ∧ c ≠ '}' := by
  cases h with
  | nullWord => exact ⟨'n', _, rfl, by decide⟩
  | trueWord => exact ⟨'t', _, rfl, by decide⟩
  | falseWord => exact ⟨'f', _, rfl, by decide⟩
  | natural h =>
    obtain ⟨c, r, rfl, hc⟩ := h.exists_cons
    refine ⟨c, r, rfl, ?_, ne_of_isDigit hc (by decide), ne_of_isDigit hc (by decide)⟩
    have hspace : ∀ d, isSpace d = true → d.isDigit = false := by
      intro d hd
      simp only [isSpace, Bool.or_eq_true, decide_eq_true_eq] at hd
      rcases hd with ((rfl | rfl) | rfl) | rfl <;> decide
    exact Bool.eq_false_iff.2 fun hc' ↦ ne_of_isDigit hc (hspace c hc') rfl
  | negative h => exact ⟨'-', _, rfl, by decide⟩
  | string h => exact ⟨'"', _, rfl, by decide⟩
  | noElements b => exact ⟨'[', _, rfl, by decide⟩
  | array h => exact ⟨'[', _, rfl, by decide⟩
  | noMembers b => exact ⟨'{', _, rfl, by decide⟩
  | object h => exact ⟨'{', _, rfl, by decide⟩

/-- Blanks before a value are skipped and no more. -/
theorem Derives.skipSpace_append (h : Derives .value s) (b : Blank) (rest : List Char) :
    skipSpace (b.chars ++ (s ++ rest)) = s ++ rest := by
  obtain ⟨c, r, rfl, hc, -⟩ := h.exists_cons
  rw [Json.skipSpace_append, List.cons_append, skipSpace_cons hc]

/-- The text of items, as skipping goes through it: up to the end of the container. -/
theorem skipFrom_item_end (k : Container) (b : Blank) (rest : List Char) :
    skipFrom .separator (k :: stack) (b.chars ++ k.closing :: rest) =
      skipFrom .separator stack rest :=
  skipFrom_close k (skipSpace_mark k.isSpace_closing b rest)

theorem skipFrom_item_next (k : Container) (b : Blank) (rest : List Char) :
    skipFrom .separator (k :: stack) (b.chars ++ ',' :: rest) =
      skipFrom k.item (k :: stack) rest :=
  skipFrom_comma k (skipSpace_mark (by decide) b rest)

/-- What skipping makes of a phrase, `s` being its text: a value is passed over, and from inside a
container skipping comes to its end. -/
def Skips : Phrase → List Char → Prop
  | .value, s => ∀ (stack : List Container) (t rest : List Char), Stops rest →
      skipSpace t = s ++ rest → skipFrom .value stack t = skipFrom .separator stack rest
  | .elements, s => ∀ (stack : List Container) (t rest : List Char),
      skipSpace t = skipSpace (s ++ ']' :: rest) →
      (∃ c r, skipSpace t = c :: r ∧ c ≠ ']') ∧
        skipFrom .value (.array :: stack) t = skipFrom .separator stack rest
  | .members, s => ∀ (stack : List Container) (t rest : List Char),
      skipSpace t = skipSpace (s ++ '}' :: rest) →
      (∃ c r, skipSpace t = c :: r ∧ c ≠ '}') ∧
        skipFrom .name (.object :: stack) t = skipFrom .separator stack rest

/-- Skipping a value inside a container comes to what follows it. -/
theorem Skips.element {behind : List Char} (h : Derives .value s) (hskips : Skips .value s)
    (before : Blank) (hbehind : Stops behind) {t : List Char}
    (ht : skipSpace t = skipSpace (before.chars ++ (s ++ behind))) :
    (∃ c r, skipSpace t = c :: r ∧ c ≠ ']') ∧
      ∀ stack, skipFrom .value stack t = skipFrom .separator stack behind := by
  rw [h.skipSpace_append] at ht
  obtain ⟨c, r, rfl, -, hc, -⟩ := h.exists_cons
  exact ⟨⟨c, r ++ behind, ht, hc⟩, fun stack ↦ hskips stack t behind hbehind ht⟩

/-- Skipping a member comes to what follows its value. -/
theorem Skips.member {name behind : List Char} (h : Derives .value s) (hskips : Skips .value s)
    (before : Blank) (hname : IsLiteral name) (after between : Blank) (hbehind : Stops behind)
    {t : List Char}
    (ht : skipSpace t = skipSpace (memberText before name after between s ++ behind)) :
    (∃ c r, skipSpace t = c :: r ∧ c ≠ '}') ∧
      ∀ stack, skipFrom .name stack t = skipFrom .separator stack behind := by
  rw [memberText_append, skipSpace_append, skipSpace_cons (by decide)] at ht
  refine ⟨⟨'"', _, ht, by decide⟩, ?_⟩
  intro stack
  rw [skipFrom_name ht (skipString_append hname _) (skipSpace_colon after _)]
  exact hskips stack _ behind hbehind (h.skipSpace_append between behind)

/-- Skipping does with a phrase what it should. -/
theorem skips_of_derives {phrase : Phrase} (h : Derives phrase s) : Skips phrase s := by
  -- the derivation is followed from outside in, under any stack; what comes behind a part of a
  -- container is again text of that container
  induction h with
  | nullWord =>
    intro stack t rest _ ht
    exact skipFrom_scalar ht (by decide) (by decide) (word_append _ _)
  | trueWord =>
    intro stack t rest _ ht
    exact skipFrom_scalar ht (by decide) (by decide) (word_append _ _)
  | falseWord =>
    intro stack t rest _ ht
    exact skipFrom_scalar ht (by decide) (by decide) (word_append _ _)
  | natural h =>
    intro stack t rest hrest ht
    have hskip := skipScalar_natural h hrest
    obtain ⟨c, r, rfl, hc⟩ := h.exists_cons
    exact skipFrom_scalar ht (ne_of_isDigit hc (by decide)) (ne_of_isDigit hc (by decide)) hskip
  | negative h =>
    intro stack t rest hrest ht
    exact skipFrom_scalar ht (by decide) (by decide) (skipNumber_append h hrest)
  | @string s h =>
    intro stack t rest _ ht
    rw [List.cons_append, List.append_assoc, List.singleton_append] at ht
    exact skipFrom_scalar ht (by decide) (by decide) (skipString_append h rest)
  | noElements b =>
    intro stack t rest _ ht
    rw [List.cons_append, List.append_assoc, List.singleton_append] at ht
    exact skipFrom_empty .array ht (skipSpace_mark (by decide) b rest)
  | array _ ih =>
    intro stack t rest _ ht
    rw [List.cons_append, List.append_assoc, List.singleton_append] at ht
    exact skipFrom_container .array ht (ih stack _ rest (skipSpace_idem _))
  | noMembers b =>
    intro stack t rest _ ht
    rw [List.cons_append, List.append_assoc, List.singleton_append] at ht
    exact skipFrom_empty .object ht (skipSpace_mark (by decide) b rest)
  | object _ ih =>
    intro stack t rest _ ht
    rw [List.cons_append, List.append_assoc, List.singleton_append] at ht
    exact skipFrom_container .object ht (ih stack _ rest (skipSpace_idem _))
  | element before h after ih =>
    intro stack t rest ht
    rw [List.append_assoc, List.append_assoc] at ht
    obtain ⟨hhead, hskip⟩ := ih.element h before (stops_of_blank after (by decide) rest) ht
    exact ⟨hhead, (hskip _).trans (skipFrom_item_end .array after rest)⟩
  | @elements before s h after u _ ih iht =>
    intro stack t rest ht
    have htext : before.chars ++ (s ++ (after.chars ++ ',' :: u)) ++ ']' :: rest =
        before.chars ++ (s ++ (after.chars ++ ',' :: (u ++ ']' :: rest))) := by
      simp only [List.append_assoc, List.cons_append]
    rw [htext] at ht
    obtain ⟨hhead, hskip⟩ := ih.element h before (stops_of_blank after (by decide) _) ht
    exact ⟨hhead, ((hskip _).trans (skipFrom_item_next .array after _)).trans
      (iht stack _ rest rfl).2⟩
  | member before hname after between h behind ih =>
    intro stack t rest ht
    rw [List.append_assoc] at ht
    obtain ⟨hhead, hskip⟩ := ih.member h before hname after between
      (stops_of_blank behind (by decide) rest) ht
    exact ⟨hhead, (hskip _).trans (skipFrom_item_end .object behind rest)⟩
  | @members before name hname after between s h behind u _ ih iht =>
    intro stack t rest ht
    rw [List.append_assoc, List.append_assoc, List.cons_append] at ht
    obtain ⟨hhead, hskip⟩ := ih.member h before hname after between
      (stops_of_blank behind (by decide) _) ht
    exact ⟨hhead, ((hskip _).trans (skipFrom_item_next .object behind _)).trans
      (iht stack _ rest rfl).2⟩

/-- The skipping reader passes over a value of the grammar, with blanks before it. -/
theorem skipFrom_derives (h : Derives .value s) (b : Blank) {rest : List Char}
    (hrest : Stops rest) : skipFrom .value [] (b.chars ++ (s ++ rest)) = .ok rest := by
  rw [skips_of_derives h [] _ rest hrest (h.skipSpace_append b rest), skipFrom_nil]

/-- A value by the grammar is skipped to its end. -/
theorem skipValue_derives (h : Derives .value s) (b : Blank) {rest : List Char}
    (hrest : Stops rest) : Reads (skipValue (b.chars ++ (s ++ rest))) () rest := by
  have hskip := skipFrom_derives h b hrest
  have hvalue : Awaited.value ≠ .separator := by
    intro h
    cases h
  -- where skipping succeeds it leaves less than it was given, as a reading has to show
  refine ⟨(skipFrom_length hskip).2 hvalue, ?_⟩
  rw [skipValue]
  grind

end LspClient.Json
