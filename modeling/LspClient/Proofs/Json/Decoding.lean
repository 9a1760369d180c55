import LspClient.Json.Decoder
import LspClient.Proofs.Json.Sorting

/-!
# Values that are kept

What decoding makes of a value that it keeps. A canonical value is kept as a canonical one
(`isCanonical_of_decodeValue`), and a value is kept as it is exactly if no object in it begins with
the reserved name (`decodeValue_eq_self_iff`). If nothing is embedded in a value, as in all that is
read, then it is kept as it is or not at all (`isPlain_of_decodeValue`).
-/

namespace LspClient.Json

variable {expected : String} {v w : Json} {ms ms' : Members}

/-! ### Parts of a value -/

theorem decodeMembers_cons_eq_ok {name : String} :
    decodeMembers expected ((name, v) :: ms) = .ok ms' ↔
      ∃ w rest, decodeValue expected v = .ok w ∧ decodeMembers expected ms = .ok rest ∧
        ms' = (name, w) :: rest := by
  rw [decodeMembers]
  cases decodeValue expected v with
  | error e => simp
  | ok w =>
    cases decodeMembers expected ms with
    | error e => simp [Except.map]
    | ok rest => simp [Except.map, eq_comm]

theorem decodeValues_cons_eq_ok {x : Json} {xs ys : List Json} :
    decodeValues expected (x :: xs) = .ok ys ↔
      ∃ y rest, decodeValue expected x = .ok y ∧ decodeValues expected xs = .ok rest ∧
        ys = y :: rest := by
  rw [decodeValues]
  cases decodeValue expected x with
  | error e => simp
  | ok y =>
    cases decodeValues expected xs with
    | error e => simp [Except.map]
    | ok rest => simp [Except.map, eq_comm]

/-- The members that are kept have the names that they had. -/
theorem names_of_decodeMembers (h : decodeMembers expected ms = .ok ms') :
    ms'.map Prod.fst = ms.map Prod.fst := by
  induction ms generalizing ms' with
  | nil =>
    cases h
    rfl
  | cons m ms ih =>
    obtain ⟨w, rest, -, hrest, rfl⟩ := decodeMembers_cons_eq_ok.1 h
    rw [List.map_cons, List.map_cons, ih hrest]

/-- Each member that is kept comes of one that was given. -/
theorem exists_of_decodeMembers (h : decodeMembers expected ms = .ok ms') :
    ∀ m' ∈ ms', ∃ m ∈ ms, decodeValue expected m.2 = .ok m'.2 := by
  induction ms generalizing ms' with
  | nil =>
    cases h
    exact List.forall_mem_nil _
  | cons m ms ih =>
    obtain ⟨w, rest, hw, hrest, rfl⟩ := decodeMembers_cons_eq_ok.1 h
    refine List.forall_mem_cons.2 ⟨⟨m, List.mem_cons_self, hw⟩, fun m' hm' ↦ ?_⟩
    obtain ⟨p, hp, hvalue⟩ := ih hrest m' hm'
    exact ⟨p, List.mem_cons_of_mem m hp, hvalue⟩

theorem exists_of_decodeValues {xs ys : List Json} (h : decodeValues expected xs = .ok ys) :
    ∀ y ∈ ys, ∃ x ∈ xs, decodeValue expected x = .ok y := by
  induction xs generalizing ys with
  | nil =>
    cases h
    exact List.forall_mem_nil _
  | cons x xs ih =>
    obtain ⟨y, rest, hy, hrest, rfl⟩ := decodeValues_cons_eq_ok.1 h
    refine List.forall_mem_cons.2 ⟨⟨x, List.mem_cons_self, hy⟩, fun y' hy' ↦ ?_⟩
    obtain ⟨x', hx', hvalue⟩ := ih hrest y' hy'
    exact ⟨x', List.mem_cons_of_mem x hx', hvalue⟩

/-- Embedded text is what a string says, and is alone. -/
theorem exists_of_decodeEmbedded (h : decodeEmbedded expected v ms = .ok w) :
    ∃ s, v = .string s ∧ ms = [] ∧ read s = .ok w := by
  rw [decodeEmbedded.eq_def] at h
  split at h
  · rename_i s
    split at h
    · cases h
    · rename_i w' hread
      split at h
      · rename_i hempty
        injection h with h
        exact ⟨s, rfl, List.isEmpty_iff.1 hempty, h ▸ hread⟩
      · cases h
  · cases h

/-- The first member does not have the reserved name. -/
def BeginsPlain (ms : Members) : Prop :=
  ∀ m ∈ ms.head?, m.1.toList ≠ embeddedName

/-- An object that does not begin with the reserved name is kept with its members. -/
theorem decodeValue_object (h : BeginsPlain ms) :
    decodeValue expected (.object ms) = (decodeMembers expected ms).map .object := by
  cases ms with
  | nil => rw [decodeValue, decodeMembers]; rfl
  | cons m ms =>
    obtain ⟨name, v⟩ := m
    rw [decodeValue, if_neg (h (name, v) rfl), decodeMembers]
    cases decodeValue expected v with
    | error e => rfl
    | ok w => cases decodeMembers expected ms <;> rfl

/-- An object that begins with the reserved name is replaced by what is embedded in it. -/
theorem decodeValue_embedded {name : String} (h : name.toList = embeddedName) :
    decodeValue expected (.object ((name, v) :: ms)) = decodeEmbedded expected v ms := by
  rw [decodeValue, if_pos h]

/-- An object that begins with the reserved name is only decoded if it embeds text. -/
theorem exists_of_decodeValue_embedded (h : ¬BeginsPlain ms)
    (hw : decodeValue expected (.object ms) = .ok w) :
    ∃ name s, ms = [(name, .string s)] ∧ name.toList = embeddedName ∧ read s = .ok w := by
  obtain _ | ⟨⟨name, v⟩, ms⟩ := ms
  · exact absurd nofun h
  · have hname : name.toList = embeddedName := by simpa [BeginsPlain] using h
    rw [decodeValue_embedded hname] at hw
    obtain ⟨s, rfl, rfl, hread⟩ := exists_of_decodeEmbedded hw
    exact ⟨name, s, rfl, hname, hread⟩

/-! ### Canonical values -/

/-- A canonical value is kept as a canonical one. -/
theorem isCanonical_of_decodeValue (h : v.IsCanonical) (hw : decodeValue expected v = .ok w) :
    w.IsCanonical := by
  induction v using Json.induction generalizing w with
  | hnull | hbool | hnumber | hstring =>
    rw [decodeValue] at hw
    cases hw
    trivial
  | harray xs ih =>
    rw [decodeValue] at hw
    obtain ⟨ys, hys, rfl⟩ := exists_of_map_eq_ok hw
    refine isCanonical_array.2 fun y hy ↦ ?_
    obtain ⟨x, hx, hxy⟩ := exists_of_decodeValues hys y hy
    exact ih x hx (isCanonical_array.1 h x hx) hxy
  | hobject ms ih =>
    obtain ⟨hascending, hms⟩ := isCanonical_object.1 h
    by_cases hbegins : BeginsPlain ms
    · rw [decodeValue_object hbegins] at hw
      obtain ⟨ms', hms', rfl⟩ := exists_of_map_eq_ok hw
      refine isCanonical_object.2 ⟨names_of_decodeMembers hms' ▸ hascending, fun m' hm' ↦ ?_⟩
      obtain ⟨m, hm, hvalue⟩ := exists_of_decodeMembers hms' m' hm'
      exact ih m hm (hms m hm) hvalue
    · obtain ⟨-, s, -, -, hread⟩ := exists_of_decodeValue_embedded hbegins hw
      exact isCanonical_of_read hread

/-- The members that are kept of a canonical object are canonical. -/
theorem isCanonical_of_decodeMembers (h : IsCanonical (.object ms))
    (hms : decodeMembers expected ms = .ok ms') : IsCanonical (.object ms') := by
  obtain ⟨hascending, hvalues⟩ := isCanonical_object.1 h
  refine isCanonical_object.2 ⟨names_of_decodeMembers hms ▸ hascending, fun m' hm' ↦ ?_⟩
  obtain ⟨m, hm, hvalue⟩ := exists_of_decodeMembers hms m' hm'
  exact isCanonical_of_decodeValue (hvalues m hm) hvalue

/-! ### Plain values -/

/-- An array is plain if its elements are. -/
theorem isPlain_array {xs : List Json} : IsPlain (.array xs) ↔ ∀ x ∈ xs, x.IsPlain :=
  all_array.trans (and_iff_right trivial)

/-- An object is plain if it does not begin with the reserved name and its members are plain. -/
theorem isPlain_object : IsPlain (.object ms) ↔ BeginsPlain ms ∧ ∀ m ∈ ms, m.2.IsPlain := by
  refine all_object.trans (and_congr_left' ?_)
  cases ms with
  | nil => exact ⟨fun _ ↦ nofun, fun _ ↦ trivial⟩
  | cons m ms => simp [BeginsPlain]

theorem decodeMembers_eq_self_iff_forall :
    decodeMembers expected ms = .ok ms ↔ ∀ m ∈ ms, decodeValue expected m.2 = .ok m.2 := by
  induction ms with
  | nil => simp [decodeMembers]
  | cons m ms ih =>
    obtain ⟨name, v⟩ := m
    rw [decodeMembers_cons_eq_ok, List.forall_mem_cons, ← ih]
    simp

theorem decodeValues_eq_self_iff_forall {xs : List Json} :
    decodeValues expected xs = .ok xs ↔ ∀ x ∈ xs, decodeValue expected x = .ok x := by
  induction xs with
  | nil => simp [decodeValues]
  | cons x xs ih =>
    rw [decodeValues_cons_eq_ok, List.forall_mem_cons, ← ih]
    simp

theorem map_eq_ok_iff {ε α β : Type} {f : α → β} {x : Except ε α} {b : β} :
    x.map f = .ok b ↔ ∃ a, x = .ok a ∧ f a = b := by
  cases x <;> simp [Except.map]

/-- A value is kept as it is exactly if no object in it begins with the reserved name. -/
theorem decodeValue_eq_self_iff : decodeValue expected v = .ok v ↔ v.IsPlain := by
  induction v using Json.induction with
  | hnull | hbool | hnumber | hstring =>
    rw [decodeValue]
    exact ⟨fun _ ↦ trivial, fun _ ↦ rfl⟩
  | harray xs ih =>
    rw [decodeValue, map_eq_ok_iff, isPlain_array]
    simp only [array.injEq, exists_eq_right, decodeValues_eq_self_iff_forall]
    exact forall₂_congr ih
  | hobject ms ih =>
    rw [isPlain_object]
    by_cases hbegins : BeginsPlain ms
    · rw [decodeValue_object hbegins, map_eq_ok_iff, and_iff_right hbegins]
      simp only [object.injEq, exists_eq_right, decodeMembers_eq_self_iff_forall]
      exact forall₂_congr ih
    · refine ⟨fun hself ↦ ?_, fun hplain ↦ absurd hplain.1 hbegins⟩
      -- what is embedded is read, and then it is no object with the reserved name alone
      obtain ⟨name, s, rfl, hname, hread⟩ := exists_of_decodeValue_embedded hbegins hself
      exact absurd hname (all_object.1 (embedsNothing_of_read hread)).1

/-- Members are kept as they are exactly if they are plain. -/
theorem decodeMembers_eq_self_iff (expected : String) :
    decodeMembers expected ms = .ok ms ↔ ∀ m ∈ ms, m.2.IsPlain :=
  decodeMembers_eq_self_iff_forall.trans (forall₂_congr fun _ _ ↦ decodeValue_eq_self_iff)

/-- What is kept of a value in which nothing is embedded is plain. -/
theorem isPlain_of_decodeValue (h : v.EmbedsNothing) (hw : decodeValue expected v = .ok w) :
    w.IsPlain := by
  induction v using Json.induction generalizing w with
  | hnull | hbool | hnumber | hstring =>
    rw [decodeValue] at hw
    cases hw
    trivial
  | harray xs ih =>
    rw [decodeValue] at hw
    obtain ⟨ys, hys, rfl⟩ := exists_of_map_eq_ok hw
    refine isPlain_array.2 fun y hy ↦ ?_
    obtain ⟨x, hx, hxy⟩ := exists_of_decodeValues hys y hy
    exact ih x hx ((all_array.1 h).2 x hx) hxy
  | hobject ms ih =>
    obtain ⟨hself, hms⟩ := all_object.1 h
    by_cases hbegins : BeginsPlain ms
    · rw [decodeValue_object hbegins] at hw
      obtain ⟨ms', hms', rfl⟩ := exists_of_map_eq_ok hw
      refine isPlain_object.2 ⟨?_, fun m' hm' ↦ ?_⟩
      · have hnames := congrArg List.head? (names_of_decodeMembers hms')
        rw [List.head?_map, List.head?_map] at hnames
        intro m' hm'
        rw [hm', Option.map_some] at hnames
        obtain ⟨m, hm, hname⟩ := Option.map_eq_some_iff.1 hnames.symm
        exact hname ▸ hbegins m hm
      · obtain ⟨m, hm, hvalue⟩ := exists_of_decodeMembers hms' m' hm'
        exact ih m hm (hms m hm) hvalue
    · obtain ⟨name, s, rfl, hname, -⟩ := exists_of_decodeValue_embedded hbegins hw
      exact absurd hname hself

/-- Members that embed nothing are plain when they are kept. -/
theorem isPlain_of_decodeMembers (h : ∀ m ∈ ms, m.2.EmbedsNothing)
    (hms : decodeMembers expected ms = .ok ms') : ∀ m' ∈ ms', m'.2.IsPlain := by
  intro m' hm'
  obtain ⟨m, hm, hvalue⟩ := exists_of_decodeMembers hms m' hm'
  exact isPlain_of_decodeValue (h m hm) hvalue

end LspClient.Json
