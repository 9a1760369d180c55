import LspClient.Proofs.Json.Reading
import LspClient.Proofs.Json.Scanned

/-!
# What the readers accept

A reader that succeeds has passed over a value of the grammar, with blanks before it. This holds of
the skipping reader (`accepts_skipValue`), of the keeping reader (`accepts_readValue`), and of the
reader of records, given that it holds of what reads a member and what reads an element
(`TextRecord.IsSound.isText_of_read`). The skipping reader accepts every text of the grammar, and so
every text that one of the others accepts (`isWellFormed_iff_isText`). An object that is cut is no
text (`not_isText_of_append`), so that nothing reads it as a record. What a record that was read has
taken in is what it makes of the members of the object one after another
(`TextRecord.Notes.exists_of_readMembers`).

The three go through a container alike: an item, and then what may follow an item up to the end of
the container (`IsTail`). The skipping reader has several containers open at once, each of which the
text behind has to close (`Closes`).
-/

namespace LspClient.Json

variable {s t u r : List Char} {k : Container}

/-! ### Items of a container -/

/-- A text is a value with blanks before it, and then `r`. -/
def HasValue (s r : List Char) : Prop :=
  ∃ (before : Blank) (v : List Char), s = before.chars ++ (v ++ r) ∧ Derives .value v

/-- A text is a member with blanks before it, and then `r`. -/
def HasMember (s r : List Char) : Prop :=
  ∃ (before : Blank) (name : List Char) (after between : Blank) (v : List Char),
    s = memberText before name after between v ++ r ∧ IsLiteral name ∧ Derives .value v

namespace Container

/-- A text is an item of a container, and then `r`. -/
def HasItem : Container → List Char → List Char → Prop
  | array => HasValue
  | object => HasMember

/-- What the items of a container are together. -/
def items : Container → Phrase
  | array => .elements
  | object => .members

/-- What may follow an item up to the end of the container. -/
def IsTail (k : Container) (t : List Char) : Prop :=
  ∀ s, k.HasItem s t → Derives k.items s

theorem HasItem.exists_append (h : k.HasItem s (t ++ u)) :
    ∃ s', s = s' ++ u ∧ k.HasItem s' t := by
  cases k with
  | array =>
    obtain ⟨before, v, rfl, hv⟩ := h
    exact ⟨before.chars ++ (v ++ t), by simp only [List.append_assoc], before, v, rfl, hv⟩
  | object =>
    obtain ⟨before, name, after, between, v, rfl, hname, hv⟩ := h
    exact ⟨memberText before name after between v ++ t, by simp only [List.append_assoc], before,
      name, after, between, v, rfl, hname, hv⟩

theorem isTail_end (k : Container) (b : Blank) : k.IsTail b.chars := by
  intro s hs
  cases k with
  | array =>
    obtain ⟨before, v, rfl, hv⟩ := hs
    exact .element before hv b
  | object =>
    obtain ⟨before, name, after, between, v, rfl, hname, hv⟩ := hs
    exact .member before hname after between hv b

theorem IsTail.next (ht : k.IsTail t) (h : k.HasItem s t) (b : Blank) :
    k.IsTail (b.chars ++ ',' :: s) := by
  have hitems := ht s h
  intro s' hs'
  cases k with
  | array =>
    obtain ⟨before, v, rfl, hv⟩ := hs'
    exact .elements before hv b hitems
  | object =>
    obtain ⟨before, name, after, between, v, rfl, hname, hv⟩ := hs'
    exact .members before hname after between hv b hitems

theorem derives_empty (k : Container) (b : Blank) :
    Derives .value (k.opening :: (b.chars ++ [k.closing])) := by
  cases k with
  | array => exact .noElements b
  | object => exact .noMembers b

theorem derives_items (h : Derives k.items s) :
    Derives .value (k.opening :: (s ++ [k.closing])) := by
  cases k with
  | array => exact .array h
  | object => exact .object h

end Container

/-- The containers on a stack are closed one after another, and then comes `r`. -/
def Closes : List Container → List Char → List Char → Prop
  | [], s, r => s = r
  | k :: outer, s, r => ∃ t u, s = t ++ k.closing :: u ∧ k.IsTail t ∧ Closes outer u r

/-- A value that begins with the first token of a text. -/
theorem hasValue_of_skipSpace {v : List Char} (h : skipSpace s = v ++ r) (hv : Derives .value v) :
    HasValue s r := by
  obtain ⟨b, hb⟩ := exists_blank h
  exact ⟨b, v, hb, hv⟩

/-- A quoted name, a colon and a value make a member. -/
theorem hasMember_of_value {name : List Char} (hs : skipSpace s = '"' :: (name ++ '"' :: t))
    (hname : IsLiteral name) (ht : skipSpace t = ':' :: u) (hu : HasValue u r) :
    HasMember s r := by
  obtain ⟨before, hs⟩ := exists_blank hs
  obtain ⟨after, ht⟩ := exists_blank ht
  obtain ⟨between, v, rfl, hv⟩ := hu
  refine ⟨before, name, after, between, v, ?_, hname, hv⟩
  rw [hs, ht, memberText_append]

namespace Container

/-- Blanks before an item belong to it. -/
theorem HasItem.of_skipSpace (h : k.HasItem (skipSpace s) r) : k.HasItem s r := by
  obtain ⟨b, hb⟩ := exists_blank (rfl : skipSpace s = _)
  cases k with
  | array =>
    obtain ⟨before, v, hs, hv⟩ := h
    refine ⟨b.append before, v, ?_, hv⟩
    rw [hb, hs, Blank.append, List.append_assoc]
  | object =>
    obtain ⟨before, name, after, between, v, hs, hname, hv⟩ := h
    refine ⟨b.append before, name, after, between, v, ?_, hname, hv⟩
    rw [hb, hs]
    simp only [memberText, Blank.append, List.append_assoc]

end Container

variable {outer : List Container}

theorem closes_closing (hs : skipSpace s = k.closing :: u) (h : Closes outer u r) :
    Closes (k :: outer) s r := by
  obtain ⟨b, rfl⟩ := exists_blank hs
  exact ⟨b.chars, u, rfl, k.isTail_end b, h⟩

theorem closes_comma (hs : skipSpace s = ',' :: t) (ht : k.HasItem t u)
    (h : Closes (k :: outer) u r) : Closes (k :: outer) s r := by
  obtain ⟨b, rfl⟩ := exists_blank hs
  obtain ⟨tail, w, rfl, htail, hw⟩ := h
  obtain ⟨item, rfl, hitem⟩ := ht.exists_append
  exact ⟨b.chars ++ ',' :: item, w, by simp, htail.next hitem b, hw⟩

/-- An empty container is a value. -/
theorem hasValue_empty (hs : skipSpace s = k.opening :: t) (ht : skipSpace t = k.closing :: r) :
    HasValue s r := by
  obtain ⟨b, rfl⟩ := exists_blank ht
  refine hasValue_of_skipSpace ?_ (k.derives_empty b)
  rw [hs, List.cons_append, List.append_assoc, List.singleton_append]

/-- An item and what follows it up to the end make a value, with the mark that opens the
container. -/
theorem exists_hasValue_of_closes (hs : skipSpace s = k.opening :: t) (ht : k.HasItem t u)
    (h : Closes (k :: outer) u r) : ∃ w, HasValue s w ∧ Closes outer w r := by
  obtain ⟨tail, w, rfl, htail, hw⟩ := h
  obtain ⟨item, rfl, hitem⟩ := ht.exists_append
  refine ⟨w, hasValue_of_skipSpace ?_ (Container.derives_items (htail item hitem)), hw⟩
  rw [hs, List.cons_append, List.append_assoc, List.singleton_append]

/-! ### The skipping reader -/

/-- What skipping leaves of a text is what follows the outermost open value. -/
def Leaves (stack : List Container) (s r : List Char) : Awaited → Prop
  | .value => ∃ u, HasValue s u ∧ Closes stack u r
  | .name => ∃ u, HasMember s u ∧ Closes stack u r
  | .separator => Closes stack s r

/-- A container that is entered. -/
theorem leaves_open (hs : skipSpace s = k.opening :: t)
    (h : ∃ u, k.HasItem (skipSpace t) u ∧ Closes (k :: outer) u r) : Leaves outer s r .value := by
  obtain ⟨u, hu, hcloses⟩ := h
  exact exists_hasValue_of_closes hs hu.of_skipSpace hcloses

/-- What is skipped is what was awaited, by the grammar. -/
theorem leaves_of_skipFrom {awaited : Awaited} {stack : List Container}
    (h : skipFrom awaited stack s = .ok r) : Leaves stack s r awaited := by
  fun_induction skipFrom awaited stack s with
  | case2 stack s _ t hs _ u hu _ ih => exact ⟨u, hasValue_empty (k := .array) hs hu, ih h⟩
  | case3 stack s _ t hs _ _ _ _ ih => exact leaves_open (k := .array) hs (ih h)
  | case5 stack s _ t hs _ u hu _ ih => exact ⟨u, hasValue_empty (k := .object) hs hu, ih h⟩
  | case6 stack s _ t hs _ _ _ _ ih => exact leaves_open (k := .object) hs (ih h)
  | case8 stack s _ u _ _ hu _ ih =>
    obtain ⟨v, hv, hvalue⟩ := derives_of_skipScalar hu
    exact ⟨u, hasValue_of_skipSpace hv hvalue, ih h⟩
  | case12 stack s _ t hs u hu _ w hw _ ih =>
    obtain ⟨name, rfl, hname⟩ := isLiteral_of_skipString hu
    obtain ⟨w', hvalue, hcloses⟩ := ih h
    exact ⟨w', hasMember_of_value hs hname hw hvalue, hcloses⟩
  | case15 => exact Except.ok.inj h
  | case17 s _ outer t hs _ ih =>
    obtain ⟨u, hu, hcloses⟩ := ih h
    exact closes_comma (k := .array) hs hu hcloses
  | case18 s _ outer t hs _ ih => exact closes_closing (k := .array) hs (ih h)
  | case21 s _ outer t hs _ ih =>
    obtain ⟨u, hu, hcloses⟩ := ih h
    exact closes_comma (k := .object) hs hu hcloses
  | case22 s _ outer t hs _ ih => exact closes_closing (k := .object) hs (ih h)
  | case1 | case4 | case7 | case9 | case10 | case11 | case13 | case14 | case16 | case19 | case20 |
    case23 => cases h

/-- A reader that succeeds has passed over a value of the grammar. -/
def Accepts {α : Type} (read : (s : List Char) → Reading α s) : Prop :=
  ∀ s v r, strip (read s) = .ok (v, r) → HasValue s r

/-- The skipping reader accepts values of the grammar only. -/
theorem accepts_skipValue : Accepts skipValue := by
  intro s v r h
  have hskip : skipFrom .value [] s = .ok r := by
    rw [skipValue] at h
    grind [strip, Except.map]
  obtain ⟨u, hvalue, rfl⟩ := leaves_of_skipFrom hskip
  exact hvalue

/-! ### The keeping reader -/

/-- What is left of a container, behind the mark that opens it or behind an item: its end, or items
and its end. -/
def Items (k : Container) (first : Bool) (s r : List Char) : Prop :=
  match first with
  | true => skipSpace s = k.closing :: r ∨ ∃ u, k.HasItem s u ∧ Closes [k] u r
  | false => Closes [k] s r

theorem items_end {first : Bool} (hs : skipSpace s = k.closing :: r) : Items k first s r := by
  cases first with
  | true => exact .inl hs
  | false => exact closes_closing hs rfl

theorem hasValue_of_items (hs : skipSpace s = k.opening :: t) (h : Items k true t r) :
    HasValue s r := by
  rcases h with hend | ⟨u, hu, hcloses⟩
  · exact hasValue_empty hs hend
  · obtain ⟨w, hw, rfl⟩ := exists_hasValue_of_closes hs hu hcloses
    exact hw

theorem Begins.items {first : Bool} (h : Begins first s t) (ht : k.HasItem t u)
    (hu : Closes [k] u r) : Items k first s r := by
  cases first with
  | true =>
    subst h
    exact .inr ⟨u, ht.of_skipSpace, hu⟩
  | false =>
    obtain ⟨w, hw, rfl⟩ := h
    exact closes_comma hw ht.of_skipSpace hu

variable {embeds first : Bool} {depth : Nat} {c : Char}

/-- The keeping reader accepts texts that are shorter than `n` characters. -/
def AcceptsBelow (n : Nat) : Prop :=
  ∀ embeds depth s v r, s.length < n → strip (readValue embeds depth s) = .ok (v, r) →
    HasValue s r

theorem AcceptsBelow.items_of_readElements {n : Nat} (hvalues : AcceptsBelow n) (hs : s.length < n)
    {vs taken : List Json}
    (h : strip (readElements embeds depth first taken s) = .ok (vs, r)) :
    Items .array first s r := by
  -- behind each element less of the text is left
  induction hm : s.length using Nat.strongRecOn generalizing s first taken with
  | ind m ih =>
    rcases begins_of_readElements h with ⟨r', hend⟩ | ⟨c, t, hbegins, hc⟩
    · rw [strip_readElements_end hend] at h
      cases h
      exact items_end hend
    · rw [strip_readElements_item hbegins hc] at h
      obtain ⟨⟨v, u⟩, hv, hu⟩ := exists_of_bind_eq_ok h
      dsimp only at hu
      obtain ⟨hshort, -⟩ := strip_eq_ok.1 hv
      have hlength := hbegins.length_le
      exact hbegins.items (hvalues _ _ _ v u (by omega) hv)
        (ih u.length (by omega) (by omega) hu rfl)

/-- What embeds text is a string and the end of its object. -/
theorem closes_of_readEmbedded {v : Json} (h : strip (readEmbedded s) = .ok (v, r)) :
    ∃ u, HasValue s u ∧ Closes [.object] u r := by
  obtain ⟨text, u, w, r', hquote, hstring, hend, -⟩ := exists_of_readEmbedded h
  obtain ⟨said, t, rfl, ht, -⟩ := spells_of_stringTail hstring
  refine ⟨w, hasValue_of_skipSpace ?_ (.string ht.isLiteral), closes_closing hend rfl⟩
  rw [hquote, List.cons_append, List.append_assoc, List.singleton_append]

/-- A name and a colon that are read stand before a value that makes a member of them. -/
theorem hasMember_of_memberName {name : List Char} (h : memberName s = .ok (name, t))
    (ht : HasValue t r) : HasMember ('"' :: s) r := by
  rw [memberName] at h
  split at h
  case h_1 => cases h
  case h_2 name' w hstring =>
    obtain ⟨said, text, rfl, htext, -⟩ := spells_of_stringTail hstring
    split at h
    case h_1 => cases h
    case h_2 hcolon =>
      cases h
      exact hasMember_of_value (skipSpace_cons (by decide) _) htext.isLiteral hcolon ht
    case h_3 => cases h

theorem AcceptsBelow.items_of_readMembers {n : Nat} (hvalues : AcceptsBelow n) (hs : s.length < n)
    {taken : Members} {v : Json}
    (h : strip (readMembers embeds depth first taken s) = .ok (v, r)) :
    Items .object first s r := by
  -- behind each member less of the text is left
  induction hm : s.length using Nat.strongRecOn generalizing s first taken with
  | ind m ih =>
    rcases ahead_of_readMembers h with ⟨r', hend⟩ | ⟨t, hahead⟩
    · rw [strip_readMembers_end hend] at h
      cases h
      exact items_end hend
    · have hbegins : Begins first s ('"' :: t) := by cases first <;> exact hahead
      rw [strip_readMembers_member hahead] at h
      obtain ⟨name, u, hname⟩ := memberName_of_readMember h
      have hlt := hahead.length_lt
      have hlt' := memberName_length_lt hname
      rw [strip_readMember hname] at h
      split at h
      · obtain ⟨w, hvalue, hcloses⟩ := closes_of_readEmbedded h
        exact hbegins.items (k := .object) (hasMember_of_memberName hname hvalue) hcloses
      · obtain ⟨⟨w, w'⟩, hw, hrest⟩ := exists_of_bind_eq_ok h
        dsimp only at hrest
        obtain ⟨hshort, -⟩ := strip_eq_ok.1 hw
        have hvalue := hvalues _ _ _ w w' (by omega) hw
        exact hbegins.items (k := .object) (hasMember_of_memberName hname hvalue)
          (ih w'.length (by omega) (by omega) hrest rfl)

/-- The keeping reader accepts values of the grammar only. -/
theorem accepts_readValue (embeds : Bool) (depth : Nat) : Accepts (readValue embeds depth) := by
  have hbelow : ∀ n, AcceptsBelow n := by
    intro n
    induction n with
    | zero => exact fun _ _ s _ _ hs ↦ absurd hs (Nat.not_lt_zero s.length)
    | succ n ih =>
      intro embeds depth s v r hs h
      cases htoken : skipSpace s with
      | nil =>
        rw [strip_readValue_nil htoken] at h
        cases h
      | cons c t =>
        have hshort : t.length < n := by
          have := length_lt_of_skipSpace_eq_cons htoken
          omega
        by_cases hcontainer : c = '[' ∨ c = '{'
        · cases depth with
          | zero =>
            rw [strip_readValue_zero htoken hcontainer] at h
            cases h
          | succ depth =>
            rcases hcontainer with rfl | rfl
            · rw [strip_readValue_array htoken] at h
              obtain ⟨⟨vs, r'⟩, helements, hr⟩ := exists_of_map_eq_ok h
              cases hr
              exact hasValue_of_items (k := .array) htoken
                (ih.items_of_readElements hshort helements)
            · rw [strip_readValue_object htoken] at h
              exact hasValue_of_items (k := .object) htoken (ih.items_of_readMembers hshort h)
        · rw [not_or] at hcontainer
          rw [strip_readValue_scalar htoken hcontainer.1 hcontainer.2] at h
          obtain ⟨text, htext, hderives⟩ := derives_of_readScalar h
          exact hasValue_of_skipSpace (htoken.trans htext) hderives
  exact fun s v r h ↦ hbelow (s.length + 1) embeds depth s v r (Nat.lt_succ_self _) h

/-! ### Records -/

theorem Accepts.orNull {α : Type} {read : (s : List Char) → Reading α s} (h : Accepts read) :
    Accepts (orNull read) := by
  intro s v r hread
  rw [Json.orNull] at hread
  split at hread
  case h_1 t hnull =>
    split at hread
    case h_1 => cases hread
    case h_2 u hword =>
      cases hread
      exact hasValue_of_skipSpace (hnull.trans (congrArg _ (eq_append_of_word hword))) .nullWord
  case h_2 =>
    rw [strip_map] at hread
    obtain ⟨⟨v', r'⟩, hvalue, hr⟩ := exists_of_map_eq_ok hread
    cases hr
    exact h s v' _ hvalue

/-- What is read after a colon is read behind one. -/
theorem exists_of_afterColon {α : Type} {read : (s : List Char) → Reading α s} {v : α}
    (h : strip (afterColon read s) = .ok (v, r)) :
    ∃ u, skipSpace s = ':' :: u ∧ strip (read u) = .ok (v, r) := by
  have hcolon : ∃ u, skipSpace s = ':' :: u := by
    rw [afterColon, colon] at h
    grind [strip, Except.map]
  obtain ⟨u, hu⟩ := hcolon
  rw [strip_afterColon read hu] at h
  exact ⟨u, hu, h⟩

/-- What is read after a colon is a value after a colon. -/
theorem Accepts.afterColon {α : Type} {read : (s : List Char) → Reading α s} (h : Accepts read)
    {v : α} (hread : strip (afterColon read s) = .ok (v, r)) :
    ∃ u, skipSpace s = ':' :: u ∧ HasValue u r := by
  obtain ⟨u, hu, hvalue⟩ := exists_of_afterColon hread
  exact ⟨u, hu, h u v r hvalue⟩

/-- A text is one value, with nothing but blanks around it. -/
def IsText (text : List Char) : Prop :=
  ∃ r, HasValue text r ∧ skipSpace r = []

/-- **The skipping reader accepts exactly the texts of the grammar.** -/
theorem isWellFormed_iff_isText {text : List Char} : isWellFormed text = true ↔ IsText text := by
  rw [isWellFormed]
  constructor
  · intro h
    cases hskip : skipFrom .value [] text with
    | error e =>
      rw [hskip] at h
      cases h
    | ok r =>
      rw [hskip] at h
      obtain ⟨u, hvalue, rfl⟩ := leaves_of_skipFrom hskip
      exact ⟨u, hvalue, List.isEmpty_iff.1 h⟩
  · rintro ⟨r, ⟨before, v, rfl, hv⟩, hr⟩
    rw [skipFrom_derives hv before (stops_of_skipSpace_eq_nil hr)]
    exact List.isEmpty_iff.2 hr

/-- The keeping reader takes nothing for a value that is no text. -/
theorem isText_of_read {s : String} {v : Json} (h : Json.read s = .ok v) : IsText s.toList := by
  rw [Json.read] at h
  split at h
  case h_1 => cases h
  case h_2 t ht =>
    split at h
    case h_1 hend =>
      have hstrip : strip (readValue true greatestDepth s.toList) = .ok (t.value, t.rest) := by
        rw [ht]
        rfl
      exact ⟨t.rest, accepts_readValue _ _ _ _ _ hstrip, hend⟩
    case h_2 => cases h

/-- Where a member is ahead, blanks and its opening quote follow. -/
theorem Ahead.exists_follows (h : Ahead first s r) :
    ∃ before : Blank, Follows first s (before.chars ++ '"' :: r) := by
  cases first with
  | true =>
    obtain ⟨before, rfl⟩ := exists_blank h
    exact ⟨before, rfl⟩
  | false =>
    obtain ⟨u, hcomma, hquote⟩ := h
    obtain ⟨gap, rfl⟩ := exists_blank hcomma
    obtain ⟨before, rfl⟩ := exists_blank hquote
    exact ⟨before, gap, rfl⟩

namespace TextRecord

variable {σ : Type} {record : TextRecord σ} {state state' : σ}

/-- What reads the members and the elements of a record accepts values of the grammar only. -/
structure IsSound (record : TextRecord σ) : Prop where
  member : ∀ state name s state' r, strip (record.member state name s) = .ok (state', r) →
    ∃ u, skipSpace s = ':' :: u ∧ HasValue u r
  element : ∀ state place read, record.element state place = some read → Accepts read

theorem IsSound.items_of_readMembers (hrecord : record.IsSound)
    (h : strip (record.readMembers first state s) = .ok (state', r)) :
    Items .object first s r := by
  -- behind each member less of the text is left
  induction hm : s.length using Nat.strongRecOn generalizing s first state with
  | ind m ih =>
    rcases ahead_of_readMembers h with ⟨r', hend⟩ | ⟨t, hahead⟩
    · rw [strip_readMembers_end first hend] at h
      cases h
      exact items_end hend
    · have hbegins : Begins first s ('"' :: t) := by cases first <;> exact hahead
      rw [strip_readMembers_member hahead] at h
      obtain ⟨⟨state₁, u⟩, hmember, hrest⟩ := exists_of_bind_eq_ok h
      dsimp only at hrest
      have hlt := hahead.length_lt
      obtain ⟨hshort, -⟩ := strip_eq_ok.1 hmember
      obtain ⟨name, w, hname⟩ := stringTail_of_readMember hmember
      rw [strip_readMember hname] at hmember
      obtain ⟨said, text, rfl, htext, -⟩ := spells_of_stringTail hname
      obtain ⟨w', hcolon, hvalue⟩ := hrecord.member _ _ _ _ _ hmember
      exact hbegins.items (k := .object)
        (hasMember_of_value (skipSpace_cons (by decide) _) htext.isLiteral hcolon hvalue)
        (ih u.length (by omega) hrest rfl)

theorem IsSound.items_of_readElements (hrecord : record.IsSound) {place : Nat}
    (h : strip (record.readElements place state s) = .ok (state', r)) :
    Items .array (decide (place = 0)) s r := by
  -- behind each element less of the text is left
  induction hm : s.length using Nat.strongRecOn generalizing s place state with
  | ind m ih =>
    rcases begins_of_readElements h with ⟨r', hend⟩ | ⟨read, c, t, hread, hbegins, hc⟩
    · rw [strip_readElements_end hend] at h
      cases h
      exact items_end hend
    · rw [strip_readElements_item hread hbegins hc] at h
      obtain ⟨⟨state₁, u⟩, hvalue, hrest⟩ := exists_of_bind_eq_ok h
      dsimp only at hrest
      have hlength := hbegins.length_le
      obtain ⟨hshort, -⟩ := strip_eq_ok.1 hvalue
      exact hbegins.items (hrecord.element _ _ _ hread _ _ _ hvalue)
        (ih u.length (by omega) hrest rfl)

/-- A record is read from a text only. -/
theorem IsSound.isText_of_read (hrecord : record.IsSound) {text : List Char}
    (h : record.read text = .ok state) : IsText text := by
  obtain ⟨s, htext | htext⟩ := opening_of_read h
  · rw [read_array htext] at h
    obtain ⟨⟨state', r⟩, helements, hfinish⟩ := exists_of_bind_eq_ok h
    exact ⟨r, hasValue_of_items (k := .array) htext (hrecord.items_of_readElements helements),
      (finish_eq_ok hfinish).2⟩
  · rw [read_object htext] at h
    obtain ⟨⟨state', r⟩, hmembers, hfinish⟩ := exists_of_bind_eq_ok h
    exact ⟨r, hasValue_of_items (k := .object) htext (hrecord.items_of_readMembers hmembers),
      (finish_eq_ok hfinish).2⟩

/-- What a record takes in of its members, none being for those that it refuses: a name, and a value
after a colon. -/
def Notes (record : TextRecord σ) (note : σ → List Char × List Char → Option σ) : Prop :=
  ∀ state name s state' r, strip (record.member state name s) = .ok (state', r) →
    ∃ (after between : Blank) (v : List Char),
      s = after.chars ++ ':' :: (between.chars ++ (v ++ r)) ∧ Derives .value v ∧
        note state (name, v) = some state'

/-- Members that are read are members of the grammar, and each of them was taken in. -/
theorem Notes.exists_of_readMembers {note : σ → List Char × List Char → Option σ}
    (hnotes : record.Notes note)
    (h : strip (record.readMembers first state s) = .ok (state', r)) :
    (skipSpace s = '}' :: r ∧ state' = state) ∨
    ∃ ms t, Follows first s (t ++ '}' :: r) ∧ HasMembers ms t ∧
      ms.foldlM note state = some state' := by
  -- behind each member less of the text is left
  induction hm : s.length using Nat.strongRecOn generalizing s first state with
  | ind m ih =>
    rcases ahead_of_readMembers h with ⟨r', hend⟩ | ⟨w, hahead⟩
    · rw [strip_readMembers_end first hend] at h
      cases h
      exact .inl ⟨hend, rfl⟩
    refine .inr ?_
    rw [strip_readMembers_member hahead] at h
    obtain ⟨⟨state₁, u⟩, hmember, hrest⟩ := exists_of_bind_eq_ok h
    dsimp only at hrest
    have hlt := hahead.length_lt
    obtain ⟨hshort, -⟩ := strip_eq_ok.1 hmember
    obtain ⟨name, w', hname⟩ := stringTail_of_readMember hmember
    rw [strip_readMember hname] at hmember
    obtain ⟨name, text, rfl, htext, rfl⟩ := spells_of_stringTail hname
    obtain ⟨after, between, v, rfl, hv, hnote⟩ := hnotes _ _ _ _ _ hmember
    obtain ⟨before, hfollows⟩ := hahead.exists_follows
    have hone : ∀ ms', (ms'.foldlM note state₁ = some state' →
        ((name, v) :: ms').foldlM note state = some state') := by
      intro ms' hms'
      rw [List.foldlM_cons, hnote]
      exact hms'
    rcases ih u.length (by omega) hrest rfl with ⟨hend, rfl⟩ | ⟨ms, t, hnext, hms, hfold⟩
    · obtain ⟨behind, rfl⟩ := exists_blank hend
      refine ⟨[(name, v)], _, ?_, .one before htext after between hv behind, hone [] rfl⟩
      rw [List.append_assoc, memberText_append]
      exact hfollows
    · obtain ⟨behind, rfl⟩ := hnext
      refine ⟨(name, v) :: ms, _, ?_, .cons before htext after between hv behind hms, hone ms hfold⟩
      rw [List.append_assoc, memberText_append, List.append_assoc, List.cons_append]
      exact hfollows

end TextRecord

/-! ### Objects that are cut -/

/-- An object ends where its last brace stands, whatever follows it. -/
theorem skipFrom_object (h : Derives .value ('{' :: s)) (rest : List Char) :
    skipFrom .value [] ('{' :: (s ++ rest)) = .ok rest := by
  have hend : skipSpace ('}' :: rest) = '}' :: rest := skipSpace_cons (by decide) rest
  have hobject : skipFrom .value [] ('{' :: (s ++ rest)) = skipFrom .separator [] rest := by
    cases h with
    | natural h =>
      obtain ⟨c, r, hc, hdigit⟩ := h.exists_cons
      obtain ⟨rfl, -⟩ := List.cons.inj hc
      cases hdigit
    | noMembers b =>
      rw [List.append_assoc, List.singleton_append]
      exact skipFrom_empty .object (skipSpace_cons (by decide) _)
        ((skipSpace_append b _).trans hend)
    | object hmembers =>
      rw [List.append_assoc, List.singleton_append]
      exact skipFrom_container .object (skipSpace_cons (by decide) _)
        (skips_of_derives hmembers [] _ rest (skipSpace_idem _))
  rw [hobject, skipFrom_nil]

/-- Nothing that an object begins with is a text, except the whole object. -/
theorem not_isText_of_append (h : Derives .value ('{' :: s)) (hcut : '{' :: s = t ++ u)
    (hu : u ≠ []) : ¬ IsText t := by
  rintro ⟨r, ⟨before, v, rfl, hv⟩, -⟩
  have hwhole : '{' :: s = v ++ (r ++ u) := by
    rw [← skipSpace_cons (by decide : isSpace '{' = false) s, hcut, List.append_assoc,
      List.append_assoc, hv.skipSpace_append]
  -- the value at the front is an object as well, and both end at the same brace
  obtain ⟨c, v', rfl, -⟩ := hv.exists_cons
  rw [List.cons_append] at hwhole
  obtain ⟨rfl, hs⟩ := List.cons.inj hwhole
  have hfront := skipFrom_object hv (r ++ u)
  have hall := skipFrom_object h []
  rw [List.append_nil, hs, hfront] at hall
  exact hu (List.append_eq_nil_iff.1 (Except.ok.inj hall)).2

end LspClient.Json
