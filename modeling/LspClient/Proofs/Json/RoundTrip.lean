import LspClient.Proofs.Json.Sorting
import LspClient.Proofs.Json.Written

/-!
# Reading back

A text that says a canonical value is read as that value exactly if the reader has room for it: if
it is not nested too deep and no object in it begins with a member of the reserved name
(`Says.readsBack`, `read_eq_ok_iff`); and a text that says an object whose members are in any order
is read as these members exactly if it has room for their values (`exists_read_eq_object_iff`). That
the reader keeps what it has room for is known (`keeps_of_says`), and what is shown here is that no
other value comes back. Whether it does or not, a reader that does not fail stops right behind the
text, so each part of a text is read for itself and the whole comes back only if every part does
(`givesBack_of_says`).

What an object that begins with the reserved name is read as is never that object: either more
members follow, and the reader fails, or there is just one, and no object that is read has the
reserved name alone.
-/

namespace LspClient.Json

variable {phrase : Phrase} {s t r rest behind : List Char} {v w : Json} {ms taken : Members}
  {first : Bool} {depth : Nat}

/-! ### The first member -/

/-- Only a string begins with a quote. -/
theorem Says.exists_string (h : Says .value s v) (hs : s = '"' :: t) :
    ∃ cs u, t = u ++ ['"'] ∧ Spells cs u ∧ v = .string (.ofList cs) := by
  cases h with
  | natural hs' _ =>
    obtain ⟨c, u, hcons, hc⟩ := hs'.exists_cons
    obtain rfl : c = '"' := (List.cons.inj (hcons.symm.trans hs)).1
    exact absurd rfl (ne_of_isDigit hc (by decide))
  | @string cs u h => exact ⟨cs, u, (List.cons.inj hs).2.symm, h, rfl⟩
  | nullWord | trueWord | falseWord | negative | noElements | array | noMembers | object => cases hs

/-- Members begin with a member, and then end or go on behind a comma. -/
theorem Says.exists_member (h : Says .members s (.object ms)) :
    ∃ (before : Blank) (cs name : List Char) (after between : Blank) (value : List Char) (v : Json)
      (behind : Blank) (u : List Char) (others : Members),
      Spells cs name ∧ Says .value value v ∧ ms = (.ofList cs, v) :: others ∧
        s = memberText before name after between value ++ (behind.chars ++ u) ∧
          ((others = [] ∧ u = []) ∨ ∃ u', u = ',' :: u') := by
  cases h with
  | member before hname after between h behind =>
    exact ⟨before, _, _, after, between, _, _, behind, [], [], hname, h, rfl,
      by rw [List.append_nil], .inl ⟨rfl, rfl⟩⟩
  | members before hname after between h behind _ =>
    exact ⟨before, _, _, after, between, _, _, behind, _, _, hname, h, rfl, rfl, .inr ⟨_, rfl⟩⟩

/-- An object whose first member bears the reserved name never comes back. -/
theorem ne_of_readMembers_embedded (h : Says .members s (.object ms)) (hfirst : ¬FirstFits true ms)
    (hread : strip (readMembers true depth true [] (s ++ '}' :: rest)) = .ok (w, r)) :
    r = rest ∧ w ≠ .object ms := by
  obtain ⟨before, cs, name, after, between, value, v, behind, u, others, hname, hvalue, rfl, rfl,
    hu⟩ := h.exists_member
  have hcs : cs = embeddedName := by simpa [FirstFits] using hfirst
  have hwhole := hread
  rw [List.append_assoc, strip_readMembers_member (follows_first _).ahead,
    strip_readMember (memberName_append hname after), if_pos ⟨rfl, rfl, hcs⟩] at hread
  obtain ⟨text, t, t', r', hquote, htail, hend, -⟩ := exists_of_readEmbedded hread
  -- what is embedded is inside a string, and nothing follows that string in the object
  obtain ⟨c, q, rfl, -⟩ := hvalue.derives.exists_cons
  rw [hvalue.derives.skipSpace_append, List.cons_append] at hquote
  obtain ⟨rfl, rfl⟩ := List.cons.inj hquote
  obtain ⟨ds, q, rfl, hds, rfl⟩ := hvalue.exists_string rfl
  rw [List.append_assoc, List.singleton_append, stringTail_append hds] at htail
  obtain rfl : behind.chars ++ u ++ '}' :: rest = t' := congrArg Prod.snd (Except.ok.inj htail)
  rw [List.append_assoc, skipSpace_append] at hend
  rcases hu with ⟨rfl, rfl⟩ | ⟨u', rfl⟩
  · rw [List.nil_append, skipSpace_cons (by decide)] at hend
    rw [← strip_readValue_object (skipSpace_cons (by decide) _)] at hwhole
    exact ⟨(List.cons.inj hend).2.symm,
      ne_embedded_of_readValue hwhole (String.toList_ofList.trans hcs) _⟩
  · rw [List.cons_append, skipSpace_cons (by decide)] at hend
    exact absurd (List.cons.inj hend).1 (by decide)

/-! ### What comes back -/

/-- A reader that does not fail stops right behind the text of a phrase, and what it takes is what
the text says only if there is room for that. Of what stands in a container it takes the container,
up to its end. -/
def GivesBack : Phrase → List Char → Json → Prop
  | .value, s, v => v.IsCanonical → ∀ (depth : Nat) (b : Blank) (rest : List Char) (w : Json)
      (r : List Char), Stops rest →
      strip (readValue true depth (b.chars ++ (s ++ rest))) = .ok (w, r) →
      r = rest ∧ (w = v → Fits true depth v)
  | .elements, s, v => ∀ xs, v = .array xs → (∀ x ∈ xs, x.IsCanonical) →
      ∀ (depth : Nat) (first : Bool) (taken : List Json) (t rest : List Char) (ws : List Json)
      (r : List Char), Follows first t (s ++ ']' :: rest) →
      strip (readElements true depth first taken t) = .ok (ws, r) →
      r = rest ∧ ∃ ys, ws = taken.reverse ++ ys ∧ (ys = xs → ∀ x ∈ xs, Fits true depth x)
  | .members, s, v => ∀ ms, v = .object ms → (∀ m ∈ ms, m.2.IsCanonical) →
      ∀ (depth : Nat) (first : Bool) (taken : Members) (t rest : List Char) (w : Json)
      (r : List Char), Follows first t (s ++ '}' :: rest) → (first = true → FirstFits true ms) →
      strip (readMembers true depth first taken t) = .ok (w, r) →
      r = rest ∧ ∃ ns : Members, w = .object (collect (taken.reverse ++ ns)) ∧
        ns.map Prod.fst = ms.map Prod.fst ∧ (ns = ms → ∀ m ∈ ms, Fits true depth m.2)

/-- There is room for a scalar, and reading it goes right to its end. -/
theorem givesBack_scalar (h : Says .value s v) (hfits : ∀ depth, Fits true depth v) :
    GivesBack .value s v := by
  intro _ depth b rest w r hrest hread
  rw [h.strip_readValue (hfits depth) b hrest] at hread
  exact ⟨(congrArg Prod.snd (Except.ok.inj hread)).symm, fun _ ↦ hfits depth⟩

/-- If elements are read, the first of them is, and the others are read behind it. -/
theorem GivesBack.element (h : GivesBack .value s v) (hs : Derives .value s)
    (hcanonical : v.IsCanonical) {before : Blank} {taken ws : List Json}
    (hfollows : Follows first t (before.chars ++ (s ++ behind))) (hbehind : Stops behind)
    (hread : strip (readElements true depth first taken t) = .ok (ws, r)) :
    ∃ y, (y = v → Fits true depth v) ∧
      strip (readElements true depth false (y :: taken) behind) = .ok (ws, r) := by
  obtain ⟨c, q, hcons, -, hc, -⟩ := hs.exists_cons
  have hbegins := hfollows.begins (hs.skipSpace_append before behind)
  rw [hcons, List.cons_append] at hbegins
  rw [strip_readElements_item hbegins hc, ← List.cons_append, ← hcons] at hread
  obtain ⟨⟨y, u⟩, hy, hrest⟩ := exists_of_bind_eq_ok hread
  obtain ⟨rfl, hfits⟩ := h hcanonical depth .none behind y u hbehind hy
  exact ⟨y, hfits, hrest⟩

/-- If members are read of which the first embeds nothing, the value of that one is, and the others
are read behind it. -/
theorem GivesBack.member (h : GivesBack .value s v) (hcanonical : v.IsCanonical)
    {before after between : Blank} {cs name : List Char} (hname : Spells cs name)
    (hfollows : Follows first t (memberText before name after between s ++ behind))
    (hbehind : Stops behind) (hfirst : first = true → cs ≠ embeddedName)
    (hread : strip (readMembers true depth first taken t) = .ok (w, r)) :
    ∃ y, (y = v → Fits true depth v) ∧
      strip (readMembers true depth false ((.ofList cs, y) :: taken) behind) = .ok (w, r) := by
  have hnot : ¬ (true = true ∧ first = true ∧ cs = embeddedName) :=
    fun hall ↦ hfirst hall.2.1 hall.2.2
  rw [strip_readMembers_member hfollows.ahead, strip_readMember (memberName_append hname after),
    if_neg hnot] at hread
  obtain ⟨⟨y, u⟩, hy, hrest⟩ := exists_of_bind_eq_ok hread
  obtain ⟨rfl, hfits⟩ := h hcanonical depth between behind y u hbehind hy
  exact ⟨y, hfits, hrest⟩

/-- An array comes back only if its elements do. -/
theorem givesBack_array {xs : List Json}
    (h : ∀ (depth : Nat) (rest : List Char) (ws : List Json) (r : List Char),
      (∀ x ∈ xs, x.IsCanonical) →
      strip (readElements true depth true [] (s ++ ']' :: rest)) = .ok (ws, r) →
      r = rest ∧ (ws = xs → ∀ x ∈ xs, Fits true depth x)) :
    GivesBack .value ('[' :: (s ++ [']'])) (.array xs) := by
  intro hcanonical depth b rest w r _ hread
  have hskip : skipSpace (b.chars ++ ('[' :: (s ++ [']']) ++ rest)) = '[' :: (s ++ ']' :: rest) :=
    skipSpace_enclosed (by decide) b s rest
  cases depth with
  | zero =>
    rw [strip_readValue_zero hskip (.inl rfl)] at hread
    cases hread
  | succ d =>
    rw [strip_readValue_array hskip] at hread
    obtain ⟨⟨ws, u⟩, hws, heq⟩ := exists_of_map_eq_ok hread
    obtain ⟨rfl, rfl⟩ := Prod.mk.inj heq
    obtain ⟨hrest, hfits⟩ := h d rest ws u (isCanonical_array.1 hcanonical) hws
    exact ⟨hrest, fun heq ↦ .array (hfits (Json.array.inj heq))⟩

/-- An object comes back only if its members do. -/
theorem givesBack_object
    (h : ∀ (depth : Nat) (rest : List Char) (w : Json) (r : List Char), IsCanonical (.object ms) →
      strip (readMembers true depth true [] (s ++ '}' :: rest)) = .ok (w, r) →
      r = rest ∧ (w = .object ms → FirstFits true ms ∧ ∀ m ∈ ms, Fits true depth m.2)) :
    GivesBack .value ('{' :: (s ++ ['}'])) (.object ms) := by
  intro hcanonical depth b rest w r _ hread
  have hskip : skipSpace (b.chars ++ ('{' :: (s ++ ['}']) ++ rest)) = '{' :: (s ++ '}' :: rest) :=
    skipSpace_enclosed (by decide) b s rest
  cases depth with
  | zero =>
    rw [strip_readValue_zero hskip (.inr rfl)] at hread
    cases hread
  | succ d =>
    rw [strip_readValue_object hskip] at hread
    obtain ⟨hrest, hfits⟩ := h d rest w r hcanonical hread
    exact ⟨hrest, fun heq ↦ .object (hfits heq).1 (hfits heq).2⟩

/-- **What comes back is what there is room for.** -/
theorem givesBack_of_says (h : Says phrase s v) : GivesBack phrase s v := by
  have hscalar : ∀ {v : Json} (depth : Nat), v.depth = 0 → v.IsPlain → Fits true depth v :=
    fun _ hdepth hplain ↦ ⟨hdepth ▸ Nat.zero_le _, fun _ ↦ hplain⟩
  -- what stands behind a part of a container is again text of that container, up to its end
  induction h with
  | nullWord => exact givesBack_scalar .nullWord fun depth ↦ hscalar depth rfl trivial
  | trueWord => exact givesBack_scalar .trueWord fun depth ↦ hscalar depth rfl trivial
  | falseWord => exact givesBack_scalar .falseWord fun depth ↦ hscalar depth rfl trivial
  | natural hs h => exact givesBack_scalar (.natural hs h) fun depth ↦ hscalar depth rfl trivial
  | negative hs h => exact givesBack_scalar (.negative hs h) fun depth ↦ hscalar depth rfl trivial
  | string h => exact givesBack_scalar (.string h) fun depth ↦ hscalar depth rfl trivial
  | noElements b =>
    refine givesBack_array fun depth rest ws r _ hread ↦ ?_
    rw [strip_readElements_end (skipSpace_mark (by decide) b rest)] at hread
    exact ⟨(congrArg Prod.snd (Except.ok.inj hread)).symm, fun _ ↦ List.forall_mem_nil _⟩
  | array _ ih =>
    refine givesBack_array fun depth rest ws r hcanonical hread ↦ ?_
    obtain ⟨hrest, ys, rfl, hfits⟩ :=
      ih _ rfl hcanonical depth true [] _ rest ws r (follows_first _) hread
    exact ⟨hrest, hfits⟩
  | noMembers b =>
    refine givesBack_object fun depth rest w r _ hread ↦ ?_
    rw [strip_readMembers_end (skipSpace_mark (by decide) b rest)] at hread
    exact ⟨(congrArg Prod.snd (Except.ok.inj hread)).symm, fun _ ↦ ⟨nofun, List.forall_mem_nil _⟩⟩
  | @object s ms h ih =>
    refine givesBack_object fun depth rest w r hcanonical hread ↦ ?_
    obtain ⟨hnames, hms⟩ := isCanonical_object.1 hcanonical
    by_cases hfirst : FirstFits true ms
    · obtain ⟨hrest, ns, rfl, hsame, hfits⟩ :=
        ih ms rfl hms depth true [] _ rest w r (follows_first _) (fun _ ↦ hfirst) hread
      refine ⟨hrest, fun heq ↦ ⟨hfirst, hfits ?_⟩⟩
      -- the names are those of the object, so collecting changes nothing
      rw [List.reverse_nil, List.nil_append, collect_of_pairwise (hsame ▸ hnames)] at heq
      exact Json.object.inj heq
    · obtain ⟨hrest, hne⟩ := ne_of_readMembers_embedded h hfirst hread
      exact ⟨hrest, fun heq ↦ absurd heq hne⟩
  | @element before s v h after ih =>
    intro xs hxs hcanonical depth first taken t rest ws r hfollows hread
    cases hxs
    rw [List.append_assoc, List.append_assoc] at hfollows
    obtain ⟨y, hfits, hend⟩ := ih.element h.derives (hcanonical v List.mem_cons_self) hfollows
      (stops_of_blank after (by decide) rest) hread
    rw [strip_readElements_end (skipSpace_mark (by decide) after rest), List.reverse_cons] at hend
    obtain ⟨rfl, rfl⟩ := Prod.mk.inj (Except.ok.inj hend)
    exact ⟨rfl, [y], rfl, fun heq ↦ List.forall_mem_singleton.2 (hfits (List.cons.inj heq).1)⟩
  | @elements before s v h after u xs hu ih ihu =>
    intro ys hys hcanonical depth first taken t rest ws r hfollows hread
    cases hys
    rw [List.append_assoc, List.append_assoc, List.append_assoc, List.cons_append] at hfollows
    obtain ⟨hv, hxs⟩ := List.forall_mem_cons.1 hcanonical
    obtain ⟨y, hfits, hothers⟩ := ih.element h.derives hv hfollows
      (stops_of_blank after (by decide) _) hread
    obtain ⟨hrest, ys, rfl, hfits'⟩ :=
      ihu xs rfl hxs depth false (y :: taken) _ rest ws r ⟨after, rfl⟩ hothers
    refine ⟨hrest, y :: ys, by rw [List.reverse_cons, List.append_assoc]; rfl, fun heq ↦ ?_⟩
    obtain ⟨hy, hys⟩ := List.cons.inj heq
    exact List.forall_mem_cons.2 ⟨hfits hy, hfits' hys⟩
  | @member before cs name hname after between s v h behind ih =>
    intro ms hms hcanonical depth first taken t rest w r hfollows hfirst hread
    cases hms
    rw [List.append_assoc] at hfollows
    obtain ⟨y, hfits, hend⟩ := ih.member (hcanonical _ List.mem_cons_self) hname hfollows
      (stops_of_blank behind (by decide) rest) (fun hf ↦ by simpa using hfirst hf rfl _ rfl) hread
    rw [strip_readMembers_end (skipSpace_mark (by decide) behind rest), List.reverse_cons] at hend
    obtain ⟨rfl, rfl⟩ := Prod.mk.inj (Except.ok.inj hend)
    refine ⟨rfl, [(.ofList cs, y)], rfl, rfl, fun heq ↦ List.forall_mem_singleton.2 (hfits ?_)⟩
    exact (Prod.mk.inj (List.cons.inj heq).1).2
  | @members before cs name hname after between s v h behind u ms hu ih ihu =>
    intro ns hns hcanonical depth first taken t rest w r hfollows hfirst hread
    cases hns
    rw [List.append_assoc, List.append_assoc, List.cons_append] at hfollows
    obtain ⟨hv, hms⟩ := List.forall_mem_cons.1 hcanonical
    obtain ⟨y, hfits, hothers⟩ := ih.member hv hname hfollows
      (stops_of_blank behind (by decide) _) (fun hf ↦ by simpa using hfirst hf rfl _ rfl) hread
    obtain ⟨hrest, ns, rfl, hnames, hfits'⟩ :=
      ihu ms rfl hms depth false ((.ofList cs, y) :: taken) _ rest w r ⟨behind, rfl⟩ nofun hothers
    refine ⟨hrest, (.ofList cs, y) :: ns, by rw [List.reverse_cons, List.append_assoc]; rfl,
      by rw [List.map_cons, hnames, List.map_cons], fun heq ↦ ?_⟩
    obtain ⟨hy, hns⟩ := List.cons.inj heq
    exact List.forall_mem_cons.2 ⟨hfits (Prod.mk.inj hy).2, hfits' hns⟩

/-! ### Values -/

/-- **A canonical value that a text says is read back exactly if there is room for it.** In any case
a reader that does not fail stops right behind the text. -/
theorem Says.readsBack (h : Says .value s v) (hcanonical : v.IsCanonical) (depth : Nat) (b : Blank)
    (hrest : Stops rest) :
    ∃ outcome : Except Fault Json,
      strip (readValue true depth (b.chars ++ (s ++ rest))) = outcome.map (fun w ↦ (w, rest)) ∧
        (outcome = .ok v ↔ Fits true depth v) := by
  have hkeeps : Fits true depth v →
      strip (readValue true depth (b.chars ++ (s ++ rest))) = .ok (v, rest) := fun hfits ↦ by
    rw [h.strip_readValue hfits b hrest, hcanonical.sorted_eq]
  cases hread : strip (readValue true depth (b.chars ++ (s ++ rest))) with
  | error e =>
    refine ⟨.error e, rfl, iff_of_false error_ne_ok fun hfits ↦ ?_⟩
    exact error_ne_ok (hread.symm.trans (hkeeps hfits))
  | ok p =>
    obtain ⟨w, r⟩ := p
    obtain ⟨rfl, hfits⟩ := givesBack_of_says h hcanonical depth b rest w r hrest hread
    refine ⟨.ok w, rfl, fun heq ↦ hfits (Except.ok.inj heq), fun hfits ↦ ?_⟩
    exact congrArg Except.ok (congrArg Prod.fst (Except.ok.inj (hread.symm.trans (hkeeps hfits))))

/-- A text is read as the canonical value that it says exactly if no object in that begins with the
reserved name and it is not nested too deep. -/
theorem read_eq_ok_iff {text : String} (h : IsTextOf text.toList v) (hcanonical : v.IsCanonical) :
    read text = .ok v ↔ v.IsPlain ∧ v.depth ≤ greatestDepth := by
  obtain ⟨before, s, after, htext, hsays⟩ := h
  have hafter : skipSpace after.chars = [] := by
    have hskip := skipSpace_append after []
    rwa [List.append_nil] at hskip
  obtain ⟨outcome, hread, hfits⟩ :=
    hsays.readsBack hcanonical greatestDepth before (stops_of_skipSpace_eq_nil hafter)
  rw [← htext] at hread
  have hroom : Fits true greatestDepth v ↔ v.IsPlain ∧ v.depth ≤ greatestDepth :=
    ⟨fun h ↦ ⟨h.plain rfl, h.depth_le⟩, fun h ↦ ⟨h.2, fun _ ↦ h.1⟩⟩
  rw [← hroom, ← hfits, read]
  cases hvalue : readValue true greatestDepth text.toList with
  | error e =>
    rw [hvalue] at hread
    cases outcome with
    | error e' => exact iff_of_false error_ne_ok error_ne_ok
    | ok w => cases hread
  | ok t =>
    rw [hvalue] at hread
    cases outcome with
    | error e' => cases hread
    | ok w =>
      obtain ⟨hw, hrest⟩ := Prod.mk.inj (Except.ok.inj hread)
      simp only [hrest, hafter, hw]

/-! ### Objects -/

/-- Members that are others in some order, and have their names in the same order, each once, are
these. -/
theorem eq_of_perm_of_names {ns : Members} (h : ns.Perm ms)
    (hnames : ns.map Prod.fst = ms.map Prod.fst) (hnodup : (ms.map Prod.fst).Nodup) : ns = ms := by
  induction ms generalizing ns with
  | nil => exact h.eq_nil
  | cons m ms ih =>
    obtain _ | ⟨n, ns⟩ := ns
    · cases hnames
    obtain ⟨hname, hrest⟩ := List.cons.inj hnames
    obtain ⟨hm, hms⟩ := List.nodup_cons.1 hnodup
    obtain rfl : n = m := by
      rcases List.mem_cons.1 (h.mem_iff.2 List.mem_cons_self) with hmn | hmem
      · exact hmn.symm
      · exact absurd (hrest ▸ List.mem_map_of_mem hmem) hm
    rw [ih h.cons_inv hrest hms]

/-- A text is read as a value if the reader takes the value and nothing but blanks is left. -/
theorem read_eq_ok_of_strip {text : String}
    (h : strip (readValue true greatestDepth text.toList) = .ok (v, rest))
    (hrest : skipSpace rest = []) : read text = .ok v := by
  obtain ⟨hlt, hvalue⟩ := strip_eq_ok.1 h
  rw [read, hvalue]
  simp only [hrest]

/-- **Members that a text says are read exactly if there is room for their values.** The text says
an object whose members are canonical, each of another name and the first not of the reserved one.
It is read as an object of these members, though in another order. -/
theorem exists_read_eq_object_iff {text : String} (h : IsTextOf text.toList (.object ms))
    (hnodup : (ms.map Prod.fst).Nodup) (hcanonical : ∀ m ∈ ms, m.2.IsCanonical)
    (hfirst : FirstFits true ms) :
    (∃ ns, read text = .ok (.object ns) ∧ ns.Perm ms) ↔
      ∀ m ∈ ms, m.2.IsPlain ∧ m.2.depth ≤ innerDepth := by
  obtain ⟨before, s, after, htext, hsays⟩ := h
  have hafter : skipSpace after.chars = [] := by
    have hskip := skipSpace_append after []
    rwa [List.append_nil] at hskip
  constructor
  · rintro ⟨ns, hread, hperm⟩
    obtain ⟨r, hread⟩ := exists_of_read hread
    rw [htext, show greatestDepth = innerDepth + 1 from rfl] at hread
    cases hsays with
    | noMembers b => exact List.forall_mem_nil _
    | @object s _ h =>
      rw [strip_readValue_object (skipSpace_enclosed (by decide) before s after.chars)] at hread
      obtain ⟨-, ns', heq, hnames, hfits⟩ :=
        givesBack_of_says h ms rfl hcanonical innerDepth true [] _ after.chars _ r
          (follows_first _) (fun _ ↦ hfirst) hread
      rw [List.reverse_nil, List.nil_append] at heq
      have hcollect : (collect ns').Perm ns' := collect_perm (hnames ▸ hnodup)
      have hsame : ns'.Perm ms := hcollect.symm.trans (Json.object.inj heq ▸ hperm)
      intro m hm
      have hroom := hfits (eq_of_perm_of_names hsame hnames hnodup) m hm
      exact ⟨hroom.plain rfl, hroom.depth_le⟩
  · intro hroom
    have hfits : Fits true greatestDepth (.object ms) :=
      .object hfirst fun m hm ↦ ⟨(hroom m hm).2, fun _ ↦ (hroom m hm).1⟩
    have hread := hsays.strip_readValue hfits before (stops_of_skipSpace_eq_nil hafter)
    rw [← htext] at hread
    have hsorted : (Json.object ms).sorted = .object (collect ms) := by
      have hsame : ∀ m ∈ ms, (m.1, m.2.sorted) = m := fun m hm ↦ by
        rw [(hcanonical m hm).sorted_eq]
      rw [sorted_object, List.map_congr_left hsame, List.map_id']
    exact ⟨collect ms, hsorted ▸ read_eq_ok_of_strip hread hafter, collect_perm hnodup⟩

end LspClient.Json
