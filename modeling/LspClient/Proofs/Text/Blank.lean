import LspClient.Text.Blank

/-!
# Trimming and splitting

A text whose first and last characters are not white space is what trimming leaves of it in any
white space (`trim_eq_of_blanks`), and white space at the end makes no difference
(`trim_append_of_blank`). A text is split at a character if the character occurs in it, and then at
the first place (`splitAtFirst_eq_some_iff`).
-/

namespace LspClient.Text

/-- What holds of every character of a text, if it can be checked of each of them. -/
theorem forall_mem_of_all {p : Char → Prop} [DecidablePred p] {s : List Char}
    (h : s.all (fun c ↦ decide (p c)) = true) : ∀ c ∈ s, p c :=
  fun c hc ↦ of_decide_eq_true (List.all_eq_true.1 h c hc)

/-- Dropping at the end goes through what is to be dropped. -/
theorem dropEndWhile_append_of_all {p : Char → Bool} {s t : List Char} (h : ∀ c ∈ t, p c = true) :
    dropEndWhile p (s ++ t) = dropEndWhile p s := by
  rw [dropEndWhile, List.reverse_append, List.dropWhile_append_of_pos]
  · rfl
  · intro c hc
    exact h c (List.mem_reverse.1 hc)

/-- Dropping at the end stops at once at a character that is to be kept. -/
theorem dropEndWhile_eq_self {p : Char → Bool} {s : List Char}
    (h : ∀ c ∈ s.getLast?, p c = false) : dropEndWhile p s = s := by
  rcases List.eq_nil_or_concat s with rfl | ⟨s, c, rfl⟩
  · rfl
  · have hc : ¬p c = true := by simpa using h c (by simp)
    rw [List.concat_eq_append, dropEndWhile, List.reverse_append, List.reverse_singleton,
      List.singleton_append, List.dropWhile_cons_of_neg hc, List.reverse_cons,
      List.reverse_reverse]

/-- What is dropped at the end stands at the end, and is all to be dropped. -/
theorem exists_dropEndWhile_append (p : Char → Bool) (s : List Char) :
    ∃ t, s = dropEndWhile p s ++ t ∧ ∀ c ∈ t, p c = true := by
  refine ⟨(s.reverse.takeWhile p).reverse, ?_, ?_⟩
  · rw [dropEndWhile, ← List.reverse_append, List.takeWhile_append_dropWhile, List.reverse_reverse]
  · intro c hc
    exact List.all_eq_true.1 List.all_takeWhile c (List.mem_reverse.1 hc)

/-- Dropping at the end never goes beyond a character that is to be kept. -/
theorem dropEndWhile_append_cons {p : Char → Bool} {c : Char} (hc : p c = false) (s t : List Char) :
    dropEndWhile p (s ++ c :: t) = s ++ c :: dropEndWhile p t := by
  have hstop : (c :: s.reverse).dropWhile p = c :: s.reverse :=
    List.dropWhile_cons_of_neg (by simp [hc])
  rw [dropEndWhile, List.reverse_append, List.reverse_cons, List.append_assoc,
    List.singleton_append, List.dropWhile_append]
  split
  case isTrue hall => simp [hstop, dropEndWhile, List.isEmpty_iff.1 hall]
  case isFalse => simp [dropEndWhile]

/-- Of a text that begins with a character to be kept, trimming leaves the front. -/
theorem exists_trim_append {c : Char} (hc : isBlank c = false) (s : List Char) :
    ∃ t, c :: s = trim (c :: s) ++ t := by
  rw [trim, trimStart, List.dropWhile_cons_of_neg (by simp [hc])]
  obtain ⟨t, ht, -⟩ := exists_dropEndWhile_append isBlank (c :: s)
  exact ⟨t, ht⟩

/-- White space at the end of a text makes no difference to trimming. -/
theorem trim_append_of_blank {s t : List Char} (h : ∀ c ∈ t, isBlank c = true) :
    trim (s ++ t) = trim s := by
  rw [trim, trimStart, List.dropWhile_append]
  split
  case isTrue hs =>
    have ht : t.dropWhile isBlank = [] := by
      rw [← List.append_nil t, List.dropWhile_append_of_pos h, List.dropWhile_nil]
    rw [ht, trim, trimStart, List.isEmpty_iff.1 hs]
  case isFalse =>
    exact dropEndWhile_append_of_all h

/-- A text is all white space exactly if trimming leaves nothing of it. -/
theorem isAllBlank_iff {s : String} : isAllBlank s = true ↔ trim s.toList = [] := by
  constructor
  · intro h
    have hblank : ∀ c ∈ s.toList, isBlank c = true := List.all_eq_true.1 h
    exact @trim_append_of_blank [] s.toList hblank
  · intro h
    obtain ⟨t, ht, hblank⟩ := exists_dropEndWhile_append isBlank (trimStart s.toList)
    rw [← trim, h, List.nil_append] at ht
    have hsplit : s.toList.takeWhile isBlank ++ t = s.toList := by
      rw [← ht]
      exact List.takeWhile_append_dropWhile
    rw [isAllBlank, ← hsplit, List.all_append, List.all_takeWhile, Bool.true_and]
    exact List.all_eq_true.2 hblank

/-- Trimming leaves a text that begins and ends with characters to be kept, whatever white space
stands around it. -/
theorem trim_eq_of_blanks {s t u : List Char} (hs : ∀ c ∈ s, isBlank c = true)
    (hu : ∀ c ∈ u, isBlank c = true) (hfirst : ∀ c ∈ t.head?, isBlank c = false)
    (hlast : ∀ c ∈ t.getLast?, isBlank c = false) : trim (s ++ t ++ u) = t := by
  have hstart : trimStart t = t := by
    cases t with
    | nil => rfl
    | cons c t =>
      have hc : ¬isBlank c = true := by simpa using hfirst c (by simp)
      exact List.dropWhile_cons_of_neg hc
  rw [trim_append_of_blank hu, trim, trimStart, List.dropWhile_append_of_pos hs]
  rw [trimStart] at hstart
  rw [hstart]
  exact dropEndWhile_eq_self hlast

/-- Trimming goes up to a first and a last character that are no white space. -/
theorem trim_eq_of_ends {s t u : List Char} {first last : Char} (hs : ∀ c ∈ s, isBlank c = true)
    (hu : ∀ c ∈ u, isBlank c = true) (hfirst : isBlank first = false)
    (hlast : isBlank last = false) :
    trim (s ++ first :: (t ++ last :: u)) = first :: (t ++ [last]) := by
  have hsplit : s ++ first :: (t ++ last :: u) = s ++ (first :: (t ++ [last])) ++ u := by
    simp only [List.append_assoc, List.cons_append, List.nil_append]
  have hend : (first :: (t ++ [last])).getLast? = some last := by
    rw [← List.cons_append, List.getLast?_concat]
  rw [hsplit]
  refine trim_eq_of_blanks hs hu ?_ ?_
  · intro c hc
    obtain rfl := Option.some.inj hc
    exact hfirst
  · intro c hc
    rw [hend] at hc
    obtain rfl := Option.some.inj hc
    exact hlast

/-- A text is split at a character that did not occur before. -/
theorem splitAtFirst_append {sep : Char} {s t : List Char} (h : sep ∉ s) :
    splitAtFirst sep (s ++ sep :: t) = some (s, t) := by
  induction s with
  | nil => exact if_pos rfl
  | cons c s ih =>
    have hc : c ≠ sep := fun hc ↦ h (hc ▸ List.mem_cons_self)
    rw [List.cons_append, splitAtFirst, if_neg hc, ih fun hs ↦ h (List.mem_cons_of_mem c hs)]
    rfl

/-- A text is split at the first occurrence of a character. -/
theorem splitAtFirst_eq_some_iff {sep : Char} {s before after : List Char} :
    splitAtFirst sep s = some (before, after) ↔ s = before ++ sep :: after ∧ sep ∉ before := by
  constructor
  · intro h
    induction s generalizing before with
    | nil => cases h
    | cons c s ih =>
      rw [splitAtFirst] at h
      split at h
      case isTrue hc =>
        cases h
        exact ⟨congrArg (· :: after) hc, List.not_mem_nil⟩
      case isFalse hc =>
        obtain ⟨⟨before', after'⟩, hsplit, heq⟩ := Option.map_eq_some_iff.1 h
        cases heq
        obtain ⟨rfl, hmem⟩ := ih hsplit
        exact ⟨rfl, fun hsep ↦ (List.mem_cons.1 hsep).elim (fun h ↦ hc h.symm) hmem⟩
  · rintro ⟨rfl, h⟩
    exact splitAtFirst_append h

theorem splitAtFirst_eq_none_iff {sep : Char} {s : List Char} :
    splitAtFirst sep s = none ↔ sep ∉ s := by
  induction s with
  | nil => simp [splitAtFirst]
  | cons c s ih =>
    rw [splitAtFirst]
    split
    case isTrue hc => simp [hc]
    case isFalse hc => simp [ih, Ne.symm hc]

end LspClient.Text
