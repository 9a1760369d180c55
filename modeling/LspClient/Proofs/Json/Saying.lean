import LspClient.Proofs.Json.Reading
import LspClient.Proofs.Json.Scanned
import LspClient.Proofs.Json.Shape

/-!
# What texts say

A text of the grammar says a value, apart from any reader (`Says`). The value has every member where
it stands in the text, also those of one name. A keeping reader takes that value with its members in
order, each name once (`keeps_of_says`), if it has room for it: the value is not nested too deep
and, where text can be embedded, no object begins with the reserved name (`Fits`).
-/

namespace LspClient.Json

variable {phrase : Phrase} {s t rest behind : List Char} {v : Json} {embeds first : Bool}
  {depth : Nat}

/-- The texts of the grammar and what they say: the elements of an array say the array, and the
members of an object the object. A number says what it is read as by itself, and text that is no
number within the bounds of binary64, or has surrogates out of their pairs, says nothing. -/
inductive Says : Phrase → List Char → Json → Prop where
  | nullWord : Says .value ['n', 'u', 'l', 'l'] .null
  | trueWord : Says .value ['t', 'r', 'u', 'e'] (.bool true)
  | falseWord : Says .value ['f', 'a', 'l', 's', 'e'] (.bool false)
  | natural {s : List Char} {n : Number} (hs : IsUnsigned s)
      (h : readNumber false s = .ok (n, [])) : Says .value s (.number n)
  | negative {s : List Char} {n : Number} (hs : IsUnsigned s)
      (h : readNumber true s = .ok (n, [])) : Says .value ('-' :: s) (.number n)
  | string {cs s : List Char} (h : Spells cs s) :
      Says .value ('"' :: (s ++ ['"'])) (.string (.ofList cs))
  | noElements (b : Blank) : Says .value ('[' :: (b.chars ++ [']'])) (.array [])
  | array {s : List Char} {xs : List Json} (h : Says .elements s (.array xs)) :
      Says .value ('[' :: (s ++ [']'])) (.array xs)
  | noMembers (b : Blank) : Says .value ('{' :: (b.chars ++ ['}'])) (.object [])
  | object {s : List Char} {ms : Members} (h : Says .members s (.object ms)) :
      Says .value ('{' :: (s ++ ['}'])) (.object ms)
  | element (before : Blank) {s : List Char} {v : Json} (h : Says .value s v) (after : Blank) :
      Says .elements (before.chars ++ (s ++ after.chars)) (.array [v])
  | elements (before : Blank) {s : List Char} {v : Json} (h : Says .value s v) (after : Blank)
      {t : List Char} {xs : List Json} (ht : Says .elements t (.array xs)) :
      Says .elements (before.chars ++ (s ++ (after.chars ++ ',' :: t))) (.array (v :: xs))
  | member (before : Blank) {cs name : List Char} (hname : Spells cs name) (after between : Blank)
      {s : List Char} {v : Json} (h : Says .value s v) (behind : Blank) :
      Says .members (memberText before name after between s ++ behind.chars)
        (.object [(.ofList cs, v)])
  | members (before : Blank) {cs name : List Char} (hname : Spells cs name) (after between : Blank)
      {s : List Char} {v : Json} (h : Says .value s v) (behind : Blank) {t : List Char}
      {ms : Members} (ht : Says .members t (.object ms)) :
      Says .members (memberText before name after between s ++ (behind.chars ++ ',' :: t))
        (.object ((.ofList cs, v) :: ms))

/-- A text that says something is a text of the grammar. -/
theorem Says.derives (h : Says phrase s v) : Derives phrase s := by
  induction h with
  | nullWord => exact .nullWord
  | trueWord => exact .trueWord
  | falseWord => exact .falseWord
  | natural hs _ => exact .natural hs
  | negative hs _ => exact .negative hs
  | string h => exact .string h.isLiteral
  | noElements b => exact .noElements b
  | array _ ih => exact .array ih
  | noMembers b => exact .noMembers b
  | object _ ih => exact .object ih
  | element before _ after ih => exact .element before ih after
  | elements before _ after _ ih iht => exact .elements before ih after iht
  | member before hname after between _ behind ih =>
    exact .member before hname.isLiteral after between ih behind
  | members before hname after between _ behind _ ih iht =>
    exact .members before hname.isLiteral after between ih behind iht

/-- A text says a value, with nothing but blanks around what says it. -/
def IsTextOf (text : List Char) (v : Json) : Prop :=
  ∃ (before : Blank) (s : List Char) (after : Blank),
    text = before.chars ++ (s ++ after.chars) ∧ Says .value s v

/-! ### Values a reader has room for -/

/-- A keeping reader has room for a value if it is not nested too deep and, where text can be
embedded, it is plain. -/
structure Fits (embeds : Bool) (depth : Nat) (v : Json) : Prop where
  depth_le : v.depth ≤ depth
  plain : embeds = true → v.IsPlain

theorem Fits.exists_array {xs : List Json} (h : Fits embeds depth (.array xs)) :
    ∃ d, depth = d + 1 ∧ ∀ x ∈ xs, Fits embeds d x := by
  obtain ⟨hdepth, hplain⟩ := h
  cases depth with
  | zero => exact absurd hdepth (by rw [Json.depth]; omega)
  | succ d =>
    rw [depth_array_le] at hdepth
    exact ⟨d, rfl, fun x hx ↦ ⟨hdepth x hx, fun he ↦ (all_array.1 (hplain he)).2 x hx⟩⟩

/-- The first member of an object does not have the reserved name, if text can be embedded. -/
def FirstFits (embeds : Bool) (ms : Members) : Prop :=
  embeds = true → ∀ m ∈ ms.head?, m.1.toList ≠ embeddedName

theorem Fits.exists_object {ms : Members} (h : Fits embeds depth (.object ms)) :
    ∃ d, depth = d + 1 ∧ FirstFits embeds ms ∧ ∀ m ∈ ms, Fits embeds d m.2 := by
  obtain ⟨hdepth, hplain⟩ := h
  cases depth with
  | zero => exact absurd hdepth (by rw [Json.depth]; omega)
  | succ d =>
    rw [depth_object_le] at hdepth
    refine ⟨d, rfl, ?_, fun m hm ↦ ⟨hdepth m hm, fun he ↦ (all_object.1 (hplain he)).2 m hm⟩⟩
    intro he m hm
    cases ms with
    | nil => cases hm
    | cons m' ms =>
      cases hm
      exact (all_object.1 (hplain he)).1

theorem Fits.array {xs : List Json} (h : ∀ x ∈ xs, Fits embeds depth x) :
    Fits embeds (depth + 1) (.array xs) where
  depth_le := depth_array_le.2 fun x hx ↦ (h x hx).depth_le
  plain he := all_array.2 ⟨trivial, fun x hx ↦ (h x hx).plain he⟩

theorem Fits.object {ms : Members} (hfirst : FirstFits embeds ms)
    (h : ∀ m ∈ ms, Fits embeds depth m.2) : Fits embeds (depth + 1) (.object ms) where
  depth_le := depth_object_le.2 fun m hm ↦ (h m hm).depth_le
  plain he := by
    refine all_object.2 ⟨?_, fun m hm ↦ (h m hm).plain he⟩
    cases ms with
    | nil => trivial
    | cons m ms => exact hfirst he m rfl

/-! ### What a reader keeps -/

/-- What the keeping reader makes of a phrase: of a value the value, and of what stands in a
container the container, up to its end. -/
def Keeps (embeds : Bool) : Phrase → List Char → Json → Prop
  | .value, s, v => ∀ (depth : Nat) (b : Blank) (rest : List Char), Stops rest →
      Fits embeds depth v →
      strip (readValue embeds depth (b.chars ++ (s ++ rest))) = .ok (v.sorted, rest)
  | .elements, s, v => ∀ xs, v = .array xs → ∀ (depth : Nat) (first : Bool) (taken : List Json)
      (t rest : List Char), Follows first t (s ++ ']' :: rest) → (∀ x ∈ xs, Fits embeds depth x) →
      strip (readElements embeds depth first taken t) =
        .ok (taken.reverse ++ sortedElements xs, rest)
  | .members, s, v => ∀ ms, v = .object ms → ∀ (depth : Nat) (first : Bool) (taken : Members)
      (t rest : List Char), Follows first t (s ++ '}' :: rest) →
      (first = true → FirstFits embeds ms) → (∀ m ∈ ms, Fits embeds depth m.2) →
      strip (readMembers embeds depth first taken t) =
        .ok (.object (collect (taken.reverse ++ sortedMembers ms)), rest)

/-- What is enclosed in two marks is ahead with the first of them. -/
theorem skipSpace_enclosed {first last : Char} (h : isSpace first = false) (b : Blank)
    (s rest : List Char) :
    skipSpace (b.chars ++ (first :: (s ++ [last]) ++ rest)) = first :: (s ++ last :: rest) := by
  rw [List.cons_append, skipSpace_mark h, List.append_assoc, List.singleton_append]

/-- A value that is no container is kept as it is read. -/
theorem keeps_scalar {c : Char} {r : List Char} (hs : Derives .value s) (hcons : s = c :: r)
    (harray : c ≠ '[') (hobject : c ≠ '{') (hsorted : v.sorted = v)
    (hread : ∀ rest, Stops rest → readScalar (s ++ rest) = .ok (v, rest)) :
    Keeps embeds .value s v := by
  intro depth b rest hrest _
  have hskip : skipSpace (b.chars ++ (s ++ rest)) = c :: (r ++ rest) := by
    rw [hs.skipSpace_append, hcons, List.cons_append]
  rw [strip_readValue_scalar hskip harray hobject, hsorted, ← hread rest hrest, hcons,
    List.cons_append]

/-- An element is kept, and reading goes on behind it. -/
theorem Keeps.element (h : Keeps embeds .value s v) (hs : Derives .value s) {before : Blank}
    (hfollows : Follows first t (before.chars ++ (s ++ behind))) (hbehind : Stops behind)
    (hfits : Fits embeds depth v) (taken : List Json) :
    strip (readElements embeds depth first taken t) =
      strip (readElements embeds depth false (v.sorted :: taken) behind) := by
  obtain ⟨c, r, hcons, -, hc, -⟩ := hs.exists_cons
  have hbegins := hfollows.begins (hs.skipSpace_append before behind)
  have hread := h depth .none behind hbehind hfits
  rw [hcons, List.cons_append] at hbegins hread
  rw [strip_readElements_item hbegins hc, show c :: (r ++ behind) = Blank.none.chars ++ _ from rfl,
    hread]
  rfl

/-- A member is kept, and reading goes on behind it. -/
theorem Keeps.member (h : Keeps embeds .value s v) {before after between : Blank}
    {cs name : List Char} (hname : Spells cs name)
    (hfollows : Follows first t (memberText before name after between s ++ behind))
    (hbehind : Stops behind) (hfits : Fits embeds depth v)
    (hfirst : embeds = true → first = true → cs ≠ embeddedName) (taken : Members) :
    strip (readMembers embeds depth first taken t) =
      strip (readMembers embeds depth false ((.ofList cs, v.sorted) :: taken) behind) := by
  have hnot : ¬ (embeds = true ∧ first = true ∧ cs = embeddedName) :=
    fun hall ↦ hfirst hall.1 hall.2.1 hall.2.2
  rw [strip_readMembers_member hfollows.ahead, strip_readMember (memberName_append hname after),
    if_neg hnot, h depth between behind hbehind hfits]
  rfl

/-- **A keeping reader keeps what a text says**, if it has room for it. -/
theorem keeps_of_says (h : Says phrase s v) : Keeps embeds phrase s v := by
  -- what stands behind a part of a container is again text of that container, up to its end
  induction h with
  | nullWord =>
    exact keeps_scalar .nullWord rfl (by decide) (by decide) (by rw [sorted]) fun _ _ ↦ rfl
  | trueWord =>
    exact keeps_scalar .trueWord rfl (by decide) (by decide) (by rw [sorted]) fun _ _ ↦ rfl
  | falseWord =>
    exact keeps_scalar .falseWord rfl (by decide) (by decide) (by rw [sorted]) fun _ _ ↦ rfl
  | natural hs h =>
    obtain ⟨c, r, hcons, hc⟩ := hs.exists_cons
    exact keeps_scalar (.natural hs) hcons (ne_of_isDigit hc (by decide))
      (ne_of_isDigit hc (by decide)) (by rw [sorted])
      fun rest hrest ↦ readScalar_unsigned hs (readNumber_append hs h hrest)
  | @negative s n hs h =>
    refine keeps_scalar (.negative hs) rfl (by decide) (by decide) (by rw [sorted]) ?_
    intro rest hrest
    show (readNumber true (s ++ rest)).map _ = _
    rw [readNumber_append hs h hrest]
    rfl
  | @string cs s h =>
    refine keeps_scalar (.string h.isLiteral) rfl (by decide) (by decide) (by rw [sorted]) ?_
    intro rest _
    rw [List.cons_append, List.append_assoc, List.singleton_append]
    show (stringTail [] (s ++ '"' :: rest)).map _ = _
    rw [stringTail_append h]
    rfl
  | noElements b =>
    intro depth b' rest _ hfits
    obtain ⟨d, rfl, -⟩ := hfits.exists_array
    rw [strip_readValue_array (skipSpace_enclosed (by decide) b' b.chars rest),
      strip_readElements_end (skipSpace_mark (by decide) b rest), sorted, sortedElements]
    rfl
  | @array s xs h ih =>
    intro depth b rest _ hfits
    obtain ⟨d, rfl, hxs⟩ := hfits.exists_array
    rw [strip_readValue_array (skipSpace_enclosed (by decide) b s rest),
      ih xs rfl d true [] _ rest (follows_first _) hxs, sorted]
    rfl
  | noMembers b =>
    intro depth b' rest _ hfits
    obtain ⟨d, rfl, -⟩ := hfits.exists_object
    rw [strip_readValue_object (skipSpace_enclosed (by decide) b' b.chars rest),
      strip_readMembers_end (skipSpace_mark (by decide) b rest), sorted, sortedMembers]
    rfl
  | @object s ms h ih =>
    intro depth b rest _ hfits
    obtain ⟨d, rfl, hfirst, hms⟩ := hfits.exists_object
    rw [strip_readValue_object (skipSpace_enclosed (by decide) b s rest),
      ih ms rfl d true [] _ rest (follows_first _) (fun _ ↦ hfirst) hms, sorted]
    rfl
  | @element before s v h after ih =>
    intro xs hxs depth first taken t rest hfollows hfits
    cases hxs
    rw [List.append_assoc, List.append_assoc] at hfollows
    rw [ih.element h.derives hfollows (stops_of_blank after (by decide) rest)
      (hfits v List.mem_cons_self), strip_readElements_end (skipSpace_mark (by decide) after rest),
      List.reverse_cons, sortedElements, sortedElements]
  | @elements before s v h after u xs hu ih ihu =>
    intro ys hys depth first taken t rest hfollows hfits
    cases hys
    rw [List.append_assoc, List.append_assoc, List.append_assoc, List.cons_append] at hfollows
    rw [ih.element h.derives hfollows (stops_of_blank after (by decide) _)
      (hfits v List.mem_cons_self), ihu xs rfl depth false (v.sorted :: taken) _ rest ⟨after, rfl⟩
      fun x hx ↦ hfits x (List.mem_cons_of_mem v hx), List.reverse_cons, List.append_assoc,
      List.singleton_append, sortedElements]
  | @member before cs name hname after between s v h behind ih =>
    intro ms hms depth first taken t rest hfollows hfirst hfits
    cases hms
    rw [List.append_assoc] at hfollows
    rw [ih.member hname hfollows (stops_of_blank behind (by decide) rest)
      (hfits _ List.mem_cons_self) (fun he hf ↦ by simpa using hfirst hf he _ rfl),
      strip_readMembers_end (skipSpace_mark (by decide) behind rest), List.reverse_cons,
      sortedMembers, sortedMembers]
  | @members before cs name hname after between s v h behind u ms hu ih ihu =>
    intro ns hns depth first taken t rest hfollows hfirst hfits
    cases hns
    rw [List.append_assoc, List.append_assoc, List.cons_append] at hfollows
    rw [ih.member hname hfollows (stops_of_blank behind (by decide) _)
      (hfits _ List.mem_cons_self) (fun he hf ↦ by simpa using hfirst hf he _ rfl),
      ihu ms rfl depth false _ _ rest ⟨behind, rfl⟩ (fun h ↦ by cases h)
      fun m hm ↦ hfits m (List.mem_cons_of_mem _ hm), List.reverse_cons, List.append_assoc,
      List.singleton_append, sortedMembers]

/-- The keeping reader takes the value that a text says, with blanks before it. -/
theorem Says.strip_readValue (h : Says .value s v) (hfits : Fits embeds depth v) (b : Blank)
    (hrest : Stops rest) :
    strip (readValue embeds depth (b.chars ++ (s ++ rest))) = .ok (v.sorted, rest) :=
  keeps_of_says h depth b rest hrest hfits

end LspClient.Json
