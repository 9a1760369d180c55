import LspClient.Text.Utf8

/-!
# Decoding what was encoded

Every text is read back from its bytes (`decode_encode`). Two facts about single bytes go with it:
a text has as many bytes as its string is said to have (`length_bytes`), and a byte below `0x80`
stands for itself only (`mem_of_mem_encode`), so that no character beyond ASCII can hide the end of
a line. Bytes that are cut off the end of a text either fail to decode or leave the front of the
text (`exists_of_encode_eq_append`). Bytes that decode are those of the text that they decode to
(`decode_eq_ok_iff`), so that no text has two forms.
-/

namespace LspClient.Utf8

/-! ### One character -/

/-- The byte of a number that fits in one. -/
theorem toNat_ofNat_of_lt {n : Nat} (h : n < 256) : (UInt8.ofNat n).toNat = n := by
  rw [UInt8.toNat_ofNat']
  exact Nat.mod_eq_of_lt h

/-- The range of the second byte holds every byte between these bounds that the first byte does not
exclude. -/
theorem secondRange_bounds {first second : Nat} (hlow : 0x80 ≤ second) (hhigh : second ≤ 0xBF)
    (hE0 : first = 0xE0 → 0xA0 ≤ second) (hED : first = 0xED → second ≤ 0x9F)
    (hF0 : first = 0xF0 → 0x90 ≤ second) (hF4 : first = 0xF4 → second ≤ 0x8F) :
    (secondRange first).1 ≤ second ∧ second ≤ (secondRange first).2 := by
  unfold secondRange
  split
  case isTrue h => exact ⟨hE0 h, hhigh⟩
  split
  case isTrue h => exact ⟨hlow, hED h⟩
  split
  case isTrue h => exact ⟨hF0 h, hhigh⟩
  split
  case isTrue h => exact ⟨hlow, hF4 h⟩
  exact ⟨hlow, hhigh⟩

theorem isContinuation_ofNat {n : Nat} (hlow : 0x80 ≤ n) (hhigh : n ≤ 0xBF) :
    isContinuation (.ofNat n) = true := by
  have hn : (UInt8.ofNat n).toNat = n := toNat_ofNat_of_lt (by omega)
  simp only [isContinuation, hn, Bool.and_eq_true, decide_eq_true_eq]
  exact ⟨hlow, hhigh⟩

/-- A character is read back from its bytes, whatever follows them. -/
theorem front_encodeChar (c : Char) (rest : List UInt8) :
    front (encodeChar c ++ rest) = .char c rest := by
  have hvalid : c.toNat < 0xD800 ∨ 0xDFFF < c.toNat ∧ c.toNat < 0x110000 := c.valid
  have hof : Char.ofNat c.toNat = c := Char.ofNat_toNat c
  unfold encodeChar
  -- from here on only the code point matters, and there is one case for each length
  generalize c.toNat = n at hvalid hof ⊢
  simp only
  split
  case isTrue h =>
    have h₀ : (UInt8.ofNat n).toNat = n := toNat_ofNat_of_lt (by omega)
    simp only [List.cons_append, List.nil_append, front, h₀, if_pos h, hof]
  case isFalse h₈₀ =>
  split
  case isTrue h =>
    have h₀ : (UInt8.ofNat (0xC0 + n / 0x40)).toNat = 0xC0 + n / 0x40 :=
      toNat_ofNat_of_lt (by omega)
    have h₁ : (UInt8.ofNat (0x80 + n % 0x40)).toNat = 0x80 + n % 0x40 :=
      toNat_ofNat_of_lt (by omega)
    have hr := @secondRange_bounds (0xC0 + n / 0x40) (0x80 + n % 0x40) (by omega) (by omega)
      (by omega) (by omega) (by omega) (by omega)
    have hn : (0xC0 + n / 0x40 - 0xC0) * 0x40 + (0x80 + n % 0x40 - 0x80) = n := by omega
    simp only [List.cons_append, List.nil_append, front, h₀, h₁, hn, hof]
    rw [if_neg (by omega), if_neg (by simp; omega), if_neg (by simp; omega), if_pos (by omega)]
  case isFalse h₈₀₀ =>
  split
  case isTrue h =>
    have h₀ : (UInt8.ofNat (0xE0 + n / 0x1000)).toNat = 0xE0 + n / 0x1000 :=
      toNat_ofNat_of_lt (by omega)
    have h₁ : (UInt8.ofNat (0x80 + n / 0x40 % 0x40)).toNat = 0x80 + n / 0x40 % 0x40 :=
      toNat_ofNat_of_lt (by omega)
    have h₂ : (UInt8.ofNat (0x80 + n % 0x40)).toNat = 0x80 + n % 0x40 :=
      toNat_ofNat_of_lt (by omega)
    have hr := @secondRange_bounds (0xE0 + n / 0x1000) (0x80 + n / 0x40 % 0x40) (by omega)
      (by omega) (by omega) (by omega) (by omega) (by omega)
    have hc := @isContinuation_ofNat (0x80 + n % 0x40) (by omega) (by omega)
    have hn : (0xE0 + n / 0x1000 - 0xE0) * 0x1000 + (0x80 + n / 0x40 % 0x40 - 0x80) * 0x40 +
        (0x80 + n % 0x40 - 0x80) = n := by omega
    simp only [List.cons_append, List.nil_append, front, h₀, h₁, h₂, hc, hn, hof]
    rw [if_neg (by omega), if_neg (by simp; omega), if_neg (by simp; omega), if_neg (by omega),
      if_neg (by simp), if_pos (by omega)]
  case isFalse h₁₀₀₀₀ =>
    have h₀ : (UInt8.ofNat (0xF0 + n / 0x40000)).toNat = 0xF0 + n / 0x40000 :=
      toNat_ofNat_of_lt (by omega)
    have h₁ : (UInt8.ofNat (0x80 + n / 0x1000 % 0x40)).toNat = 0x80 + n / 0x1000 % 0x40 :=
      toNat_ofNat_of_lt (by omega)
    have h₂ : (UInt8.ofNat (0x80 + n / 0x40 % 0x40)).toNat = 0x80 + n / 0x40 % 0x40 :=
      toNat_ofNat_of_lt (by omega)
    have h₃ : (UInt8.ofNat (0x80 + n % 0x40)).toNat = 0x80 + n % 0x40 :=
      toNat_ofNat_of_lt (by omega)
    have hr := @secondRange_bounds (0xF0 + n / 0x40000) (0x80 + n / 0x1000 % 0x40) (by omega)
      (by omega) (by omega) (by omega) (by omega) (by omega)
    have hc := @isContinuation_ofNat (0x80 + n / 0x40 % 0x40) (by omega) (by omega)
    have hc' := @isContinuation_ofNat (0x80 + n % 0x40) (by omega) (by omega)
    have hn : (0xF0 + n / 0x40000 - 0xF0) * 0x40000 + (0x80 + n / 0x1000 % 0x40 - 0x80) * 0x1000 +
        (0x80 + n / 0x40 % 0x40 - 0x80) * 0x40 + (0x80 + n % 0x40 - 0x80) = n := by omega
    simp only [List.cons_append, List.nil_append, front, h₀, h₁, h₂, h₃, hc, hc', hn, hof]
    rw [if_neg (by omega), if_neg (by simp; omega), if_neg (by simp; omega), if_neg (by omega),
      if_neg (by simp), if_neg (by omega), if_neg (by simp)]

/-- A character has as many bytes as its size says. -/
theorem length_encodeChar (c : Char) : (encodeChar c).length = c.utf8Size := by
  have hle : ∀ m : UInt32, c.val ≤ m ↔ c.toNat ≤ m.toNat := fun m ↦ UInt32.le_iff_toNat_le
  unfold encodeChar
  simp only
  split
  case isTrue h =>
    exact (Char.utf8Size_eq_one_iff.2 ((hle 127).2 (Nat.le_of_lt_succ h))).symm
  case isFalse h₈₀ =>
  split
  case isTrue h =>
    refine (Char.utf8Size_eq_two_iff.2 ⟨?_, (hle 0x7ff).2 (Nat.le_of_lt_succ h)⟩).symm
    exact UInt32.not_le.1 fun hc ↦ h₈₀ (Nat.lt_succ_of_le ((hle 127).1 hc))
  case isFalse h₈₀₀ =>
  split
  case isTrue h =>
    refine (Char.utf8Size_eq_three_iff.2 ⟨?_, (hle 0xffff).2 (Nat.le_of_lt_succ h)⟩).symm
    exact UInt32.not_le.1 fun hc ↦ h₈₀₀ (Nat.lt_succ_of_le ((hle 0x7ff).1 hc))
  case isFalse h =>
    refine (Char.utf8Size_eq_four_iff.2 ?_).symm
    exact UInt32.not_le.1 fun hc ↦ h (Nat.lt_succ_of_le ((hle 0xffff).1 hc))

/-- A byte below `0x80` occurs only in the bytes of the character it stands for. -/
theorem eq_of_mem_encodeChar {c : Char} {b : UInt8} (hb : b.toNat < 0x80)
    (h : b ∈ encodeChar c) : c.toNat = b.toNat := by
  have hvalid : c.toNat < 0xD800 ∨ 0xDFFF < c.toNat ∧ c.toNat < 0x110000 := c.valid
  have hne : ∀ {n}, b = .ofNat n → 0x80 ≤ n → n < 256 → False := by
    rintro n rfl hlow hhigh
    rw [toNat_ofNat_of_lt hhigh] at hb
    omega
  unfold encodeChar at h
  simp only at h
  split at h
  case isTrue hc =>
    rw [List.mem_singleton.1 h, toNat_ofNat_of_lt (by omega)]
  case isFalse h₈₀ =>
  -- every byte of a longer encoding is at least `0x80`
  exfalso
  split at h
  case isTrue =>
    simp only [List.mem_cons, List.not_mem_nil, or_false] at h
    rcases h with h | h <;> exact hne h (by omega) (by omega)
  case isFalse h₈₀₀ =>
  split at h <;> simp only [List.mem_cons, List.not_mem_nil, or_false] at h
  · rcases h with h | h | h <;> exact hne h (by omega) (by omega)
  · rcases h with h | h | h | h <;> exact hne h (by omega) (by omega)

/-! ### Texts -/

@[simp] theorem encode_nil : encode [] = [] := rfl

theorem encode_cons (c : Char) (s : List Char) : encode (c :: s) = encodeChar c ++ encode s := rfl

theorem encode_append (s t : List Char) : encode (s ++ t) = encode s ++ encode t :=
  List.flatMap_append

theorem decodeFrom_encode (taken : List Char) (index : Nat) (s : List Char) :
    decodeFrom taken index (encode s) = .ok (taken.reverse ++ s) := by
  induction s generalizing taken index with
  | nil =>
    rw [encode_nil, decodeFrom, List.append_nil]
    rfl
  | cons c s ih =>
    rw [encode_cons, decodeFrom]
    split
    case h_2 c' rest h =>
      rw [front_encodeChar] at h
      injection h with hc hrest
      subst hc hrest
      rw [ih, List.reverse_cons, List.append_assoc, List.singleton_append]
    all_goals
      rename_i h
      rw [front_encodeChar] at h
      contradiction

/-- A text is read back from its bytes. -/
theorem decode_encode (s : List Char) : decode (encode s) = .ok s :=
  decodeFrom_encode [] 0 s

/-- A byte below `0x80` stands for its own character. -/
theorem mem_of_mem_encode {s : List Char} {b : UInt8} (hb : b.toNat < 0x80) (h : b ∈ encode s) :
    Char.ofNat b.toNat ∈ s := by
  obtain ⟨c, hc, hbc⟩ := List.mem_flatMap.1 h
  rw [← eq_of_mem_encodeChar hb hbc, Char.ofNat_toNat]
  exact hc

/-- A string has as many bytes as its size says. -/
theorem length_bytes (s : String) : (bytes s).length = s.utf8ByteSize := by
  have hlist : ∀ l : List Char, (encode l).length = (l.flatMap String.utf8EncodeChar).length := by
    intro l
    induction l with
    | nil => rfl
    | cons c l ih =>
      rw [encode_cons, List.length_append, length_encodeChar, ih, List.flatMap_cons,
        List.length_append, String.length_utf8EncodeChar]
  rw [bytes, hlist, ← String.size_toByteArray, ← String.utf8Encode_toList, List.utf8Encode,
    List.size_toByteArray]

/-! ### Texts that are cut -/

/-- A character at the front is read whatever bytes come behind it. -/
theorem front_append {xs rest : List UInt8} {c : Char} (h : front xs = .char c rest)
    (ys : List UInt8) : front (xs ++ ys) = .char c (rest ++ ys) := by
  simp only [front] at h
  repeat' split at h
  all_goals first
    | contradiction
    | rw [← (Front.char.inj h).1, ← (Front.char.inj h).2]
      simp only [List.cons_append, front]
      grind

/-- Only where there are no bytes there is nothing at the front. -/
theorem eq_nil_of_front {xs : List UInt8} (h : front xs = .done) : xs = [] := by
  simp only [front] at h
  repeat' split at h
  all_goals first
    | rfl
    | contradiction

/-- Bytes that decode are decoded in front of others too. -/
theorem decodeFrom_append {taken s : List Char} {index : Nat} {xs : List UInt8}
    (h : decodeFrom taken index xs = .ok s) :
    ∃ index', ∀ ys, decodeFrom taken index (xs ++ ys) = decodeFrom s.reverse index' ys := by
  fun_induction decodeFrom taken index xs with
  | case1 taken index xs hfront =>
    obtain rfl := eq_nil_of_front hfront
    cases h
    exact ⟨index, fun ys ↦ by rw [List.reverse_reverse, List.nil_append]⟩
  | case2 taken index xs c rest hfront _ ih =>
    obtain ⟨index', hindex'⟩ := ih h
    refine ⟨index', fun ys ↦ ?_⟩
    rw [← hindex', decodeFrom.eq_def]
    have happend := front_append hfront ys
    split
    case h_2 c' rest' h' =>
      rw [happend] at h'
      injection h' with hc hrest
      rw [hc, hrest]
    all_goals
      rename_i h'
      rw [happend] at h'
      contradiction
  | case3 | case4 => cases h

/-- Decoding keeps what is there, and adds to it unless there are no bytes. -/
theorem exists_of_decodeFrom {taken s : List Char} {index : Nat} {ys : List UInt8}
    (h : decodeFrom taken index ys = .ok s) :
    ∃ t, s = taken.reverse ++ t ∧ (t = [] → ys = []) := by
  fun_induction decodeFrom taken index ys with
  | case1 taken index ys hfront =>
    cases h
    exact ⟨[], (List.append_nil _).symm, fun _ ↦ eq_nil_of_front hfront⟩
  | case2 taken index ys c rest _ _ ih =>
    obtain ⟨t, ht, -⟩ := ih h
    refine ⟨c :: t, by rw [ht, List.reverse_cons, List.append_assoc, List.singleton_append], ?_⟩
    intro hnil
    cases hnil
  | case3 | case4 => cases h

/-- If the bytes of a text are cut and the front part decodes, it is the front of the text. -/
theorem exists_of_encode_eq_append {m s : List Char} {xs ys : List UInt8}
    (hcut : encode m = xs ++ ys) (h : decode xs = .ok s) :
    ∃ t, m = s ++ t ∧ (t = [] → ys = []) := by
  obtain ⟨index, hindex⟩ := decodeFrom_append h
  have hwhole : decodeFrom s.reverse index ys = .ok m := by
    rw [← hindex, ← hcut]
    exact decode_encode m
  obtain ⟨t, ht, hnil⟩ := exists_of_decodeFrom hwhole
  exact ⟨t, by rw [ht, List.reverse_reverse], hnil⟩

/-! ### Bytes that decode -/

/-- What the second byte of a sequence is bounded by. -/
theorem bounds_of_secondRange {first second : Nat} (hlow : (secondRange first).1 ≤ second)
    (hhigh : second ≤ (secondRange first).2) :
    0x80 ≤ second ∧ second ≤ 0xBF ∧ (first = 0xE0 → 0xA0 ≤ second) ∧
      (first = 0xED → second ≤ 0x9F) ∧ (first = 0xF0 → 0x90 ≤ second) ∧
      (first = 0xF4 → second ≤ 0x8F) := by
  unfold secondRange at hlow hhigh
  split at hlow
  · simp_all; omega
  split at hlow
  · simp_all; omega
  split at hlow
  · simp_all; omega
  split at hlow
  · simp_all; omega
  · simp_all

/-- The bytes of the character with a code point. -/
theorem encodeChar_ofNat {n : Nat} (h : n.isValidChar) :
    encodeChar (.ofNat n) =
      if n < 0x80 then [.ofNat n]
      else if n < 0x800 then [.ofNat (0xC0 + n / 0x40), .ofNat (0x80 + n % 0x40)]
      else if n < 0x10000 then
        [.ofNat (0xE0 + n / 0x1000), .ofNat (0x80 + n / 0x40 % 0x40), .ofNat (0x80 + n % 0x40)]
      else
        [.ofNat (0xF0 + n / 0x40000), .ofNat (0x80 + n / 0x1000 % 0x40),
          .ofNat (0x80 + n / 0x40 % 0x40), .ofNat (0x80 + n % 0x40)] := by
  have hn : (Char.ofNat n).toNat = n := by
    rw [Char.ofNat, dif_pos h]
    rfl
  simp only [encodeChar, hn]

theorem eq_ofNat_of_toNat {b : UInt8} {n : Nat} (h : n = b.toNat) : UInt8.ofNat n = b := by
  rw [h, UInt8.ofNat_toNat]

/-- A character is read off its own bytes. -/
theorem eq_append_of_front {xs rest : List UInt8} {c : Char} (h : front xs = .char c rest) :
    xs = encodeChar c ++ rest := by
  rcases xs with _ | ⟨b₀, r₀⟩
  · cases h
  have h₀ := b₀.toNat_lt
  simp only [front] at h
  split at h
  case isTrue hascii =>
    rw [← (Front.char.inj h).1, ← (Front.char.inj h).2, encodeChar_ofNat (.inl (by omega)),
      if_pos hascii, UInt8.ofNat_toNat, List.singleton_append]
  case isFalse hascii =>
  split at h
  case isTrue => cases h
  case isFalse hfirst =>
  simp only [Bool.or_eq_true, decide_eq_true_eq, not_or, Nat.not_lt] at hfirst
  rcases r₀ with _ | ⟨b₁, r₁⟩
  · cases h
  dsimp only at h
  split at h
  case isTrue => cases h
  case isFalse hsecond =>
  simp only [Bool.or_eq_true, decide_eq_true_eq, not_or, Nat.not_lt] at hsecond
  obtain ⟨hlow, hhigh, hE0, hED, hF0, hF4⟩ := bounds_of_secondRange hsecond.1 hsecond.2
  split at h
  case isTrue htwo =>
    rw [← (Front.char.inj h).1, ← (Front.char.inj h).2, encodeChar_ofNat (.inl (by omega)),
      if_neg (by omega), if_pos (by omega), eq_ofNat_of_toNat (b := b₀) (by omega),
      eq_ofNat_of_toNat (b := b₁) (by omega)]
    rfl
  case isFalse htwo =>
  rcases r₁ with _ | ⟨b₂, r₂⟩
  · cases h
  dsimp only at h
  split at h
  case isTrue => cases h
  case isFalse hthird =>
  simp only [isContinuation, Bool.not_eq_true', Bool.and_eq_false_iff, decide_eq_false_iff_not,
    not_or, Classical.not_not] at hthird
  split at h
  case isTrue hthree =>
    rw [← (Front.char.inj h).1, ← (Front.char.inj h).2,
      encodeChar_ofNat (by unfold Nat.isValidChar; omega), if_neg (by omega), if_neg (by omega),
      if_pos (by omega), eq_ofNat_of_toNat (b := b₀) (by omega),
      eq_ofNat_of_toNat (b := b₁) (by omega), eq_ofNat_of_toNat (b := b₂) (by omega)]
    rfl
  case isFalse hthree =>
  rcases r₂ with _ | ⟨b₃, r₃⟩
  · cases h
  dsimp only at h
  split at h
  case isTrue => cases h
  case isFalse hfourth =>
  simp only [isContinuation, Bool.not_eq_true', Bool.and_eq_false_iff, decide_eq_false_iff_not,
    not_or, Classical.not_not] at hfourth
  rw [← (Front.char.inj h).1, ← (Front.char.inj h).2,
    encodeChar_ofNat (by unfold Nat.isValidChar; omega), if_neg (by omega), if_neg (by omega),
    if_neg (by omega), eq_ofNat_of_toNat (b := b₀) (by omega),
    eq_ofNat_of_toNat (b := b₁) (by omega), eq_ofNat_of_toNat (b := b₂) (by omega),
    eq_ofNat_of_toNat (b := b₃) (by omega)]
  rfl

/-- Bytes that decode are those of the text that they decode to. -/
theorem decodeFrom_eq_ok {taken s : List Char} {index : Nat} {xs : List UInt8}
    (h : decodeFrom taken index xs = .ok s) : ∃ t, s = taken.reverse ++ t ∧ xs = encode t := by
  fun_induction decodeFrom taken index xs with
  | case1 taken index xs hfront =>
    cases h
    exact ⟨[], (List.append_nil _).symm, eq_nil_of_front hfront⟩
  | case2 taken index xs c rest hfront _ ih =>
    obtain ⟨t, rfl, rfl⟩ := ih h
    refine ⟨c :: t, ?_, eq_append_of_front hfront⟩
    rw [List.reverse_cons, List.append_assoc, List.singleton_append]
  | case3 | case4 => cases h

/-- Bytes decode to a text exactly if they are its bytes. -/
theorem decode_eq_ok_iff {xs : List UInt8} {s : List Char} : decode xs = .ok s ↔ xs = encode s := by
  constructor
  · intro h
    obtain ⟨t, rfl, ht⟩ := decodeFrom_eq_ok h
    exact ht
  · rintro rfl
    exact decode_encode s

end LspClient.Utf8
