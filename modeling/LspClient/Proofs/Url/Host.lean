import LspClient.Proofs.Text.Utf8
import LspClient.Url.Basic

/-!
# The characters of a host

What may stand in a text that is read as a host. An address of 128 bits has hexadecimal digits,
colons and points (`Ipv6.isOfAddress_of_parse`). A domain has no character that is forbidden in one,
except for the percent sign, which is read with what follows it (`eq_percent_of_domain`).
-/

namespace LspClient.Url

/-! ### Parts of a text -/

theorem splitAt_cons (sep c : Char) (s : List Char) :
    splitAt sep (c :: s) = if c = sep then [] :: splitAt sep s else
      match splitAt sep s with
      | [] => [[c]]
      | part :: parts => (c :: part) :: parts :=
  rfl

/-- Every character of a text but the separator is in one of its parts. -/
theorem mem_flatten_splitAt {sep c : Char} {s : List Char} (h : c ∈ s) (hne : c ≠ sep) :
    c ∈ (splitAt sep s).flatten := by
  induction s with
  | nil => cases h
  | cons d s ih =>
    rw [splitAt_cons]
    rcases List.mem_cons.1 h with rfl | h
    · rw [if_neg hne]
      cases splitAt sep s <;> simp
    · have hrest := ih h
      split
      · exact hrest
      · cases hparts : splitAt sep s with
        | nil => simp [hparts] at hrest
        | cons part parts =>
          rw [hparts] at hrest
          exact .tail d hrest

/-- What is made of a list is made of each of its elements. -/
theorem exists_of_mapM_eq_some {α β : Type} {f : α → Option β} {xs : List α} {ys : List β}
    (h : xs.mapM f = some ys) : ∀ x ∈ xs, ∃ y, f x = some y := by
  induction xs generalizing ys with
  | nil => exact List.forall_mem_nil _
  | cons x xs ih =>
    rw [List.mapM_cons] at h
    obtain ⟨y, hy, h⟩ := Option.bind_eq_some_iff.1 h
    obtain ⟨ys', hys, -⟩ := Option.bind_eq_some_iff.1 h
    exact List.forall_mem_cons.2 ⟨⟨y, hy⟩, ih hys⟩

namespace Ipv6

/-- A character of an address of 128 bits. -/
def IsOfAddress (c : Char) : Prop :=
  (Text.hexValue? c).isSome = true ∨ c = ':' ∨ c = '.'

instance (c : Char) : Decidable (IsOfAddress c) :=
  inferInstanceAs (Decidable (_ ∨ _))

theorem isSome_of_digit? {base d : Nat} {c : Char} (h : Ipv4.digit? base c = some d) :
    (Text.hexValue? c).isSome = true := by
  obtain ⟨hvalue, -⟩ := Option.filter_eq_some_iff.1 h
  rw [hvalue]
  rfl

/-- Each character of a number is a hexadecimal digit, whatever its base. -/
theorem isSome_of_number? {base n : Nat} {cs : List Char} (h : Ipv4.number? base cs = some n) :
    ∀ c ∈ cs, (Text.hexValue? c).isSome = true := by
  have hfold : ∀ {cs : List Char} {o : Option Nat},
      cs.foldl (fun n c ↦ n.bind fun n ↦ (Ipv4.digit? base c).map (base * n + ·)) o = some n →
        o.isSome = true ∧ ∀ c ∈ cs, (Text.hexValue? c).isSome = true := by
    intro cs
    induction cs with
    | nil =>
      intro o h
      exact ⟨Option.isSome_iff_exists.2 ⟨n, h⟩, List.forall_mem_nil _⟩
    | cons c cs ih =>
      intro o h
      obtain ⟨hsome, hcs⟩ := ih h
      obtain ⟨m, hm⟩ := Option.isSome_iff_exists.1 hsome
      obtain ⟨k, rfl, hdigit⟩ := Option.bind_eq_some_iff.1 hm
      obtain ⟨d, hd, -⟩ := Option.map_eq_some_iff.1 hdigit
      exact ⟨rfl, List.forall_mem_cons.2 ⟨isSome_of_digit? hd, hcs⟩⟩
  exact (hfold h).2

/-- Each character of a piece is a hexadecimal digit. -/
theorem isSome_of_piece? {p : UInt16} {cs : List Char} (h : piece? cs = some p) :
    ∀ c ∈ cs, (Text.hexValue? c).isSome = true := by
  rw [piece?] at h
  split at h
  · cases h
  · obtain ⟨n, hn, -⟩ := Option.map_eq_some_iff.1 h
    exact isSome_of_number? hn

theorem isSome_of_byte? {n : Nat} {cs : List Char} (h : byte? cs = some n) :
    ∀ c ∈ cs, (Text.hexValue? c).isSome = true := by
  rw [byte?.eq_def] at h
  split at h
  · cases h
  · cases h
  · exact isSome_of_number? (Option.filter_eq_some_iff.1 h).1

/-- What is read of each part is read of the whole, with the separators. -/
theorem isOfAddress_of_splitAt {sep : Char} {cs : List Char} (hsep : IsOfAddress sep)
    (h : ∀ part ∈ splitAt sep cs, ∀ c ∈ part, IsOfAddress c) : ∀ c ∈ cs, IsOfAddress c := by
  intro c hc
  by_cases hne : c = sep
  · exact hne ▸ hsep
  · obtain ⟨part, hpart, hmem⟩ := List.mem_flatten.1 (mem_flatten_splitAt hc hne)
    exact h part hpart c hmem

theorem isOfAddress_of_dotted? {ps : List UInt16} {cs : List Char} (h : dotted? cs = some ps) :
    ∀ c ∈ cs, IsOfAddress c := by
  rw [dotted?] at h
  split at h
  · rename_i hbytes
    refine isOfAddress_of_splitAt (.inr (.inr rfl)) fun part hpart c hc ↦ ?_
    obtain ⟨n, hn⟩ := exists_of_mapM_eq_some hbytes part hpart
    exact .inl (isSome_of_byte? hn c hc)
  · cases h

/-- Each character of the pieces of an address is one of an address. -/
theorem isOfAddress_of_pieces? {ps : List UInt16} {fields : List (List Char)}
    (h : pieces? fields = some ps) : ∀ field ∈ fields, ∀ c ∈ field, IsOfAddress c := by
  fun_induction pieces? fields generalizing ps with
  | case1 => exact List.forall_mem_nil _
  | case2 field hpoint =>
    exact List.forall_mem_singleton.2 (isOfAddress_of_dotted? h)
  | case3 field hpoint =>
    obtain ⟨p, hp, -⟩ := Option.map_eq_some_iff.1 h
    exact List.forall_mem_singleton.2 fun c hc ↦ .inl (isSome_of_piece? hp c hc)
  | case4 field fields _ ih =>
    obtain ⟨p, hp, h⟩ := Option.bind_eq_some_iff.1 h
    obtain ⟨rest, hrest, -⟩ := Option.bind_eq_some_iff.1 h
    exact List.forall_mem_cons.2 ⟨fun c hc ↦ .inl (isSome_of_piece? hp c hc), ih hrest⟩

theorem isOfAddress_of_run? {ps : List UInt16} {cs : List Char} (h : run? cs = some ps) :
    ∀ c ∈ cs, IsOfAddress c := by
  rw [run?] at h
  split at h
  · rename_i hnil
    exact hnil ▸ List.forall_mem_nil _
  · exact isOfAddress_of_splitAt (.inr (.inl rfl)) (isOfAddress_of_pieces? h)

/-- A gap is two colons between what comes before and what comes after it. -/
theorem splitAtGap_eq_some {cs before after : List Char}
    (h : splitAtGap cs = some (before, after)) :
    cs = before ++ ':' :: ':' :: after := by
  fun_induction splitAtGap cs generalizing before with
  | case1 rest =>
    cases h
    rfl
  | case2 c rest _ ih =>
    obtain ⟨⟨front, back⟩, hsplit, hpair⟩ := Option.map_eq_some_iff.1 h
    cases hpair
    rw [ih hsplit, List.cons_append]
  | case3 => cases h

/-- An address has hexadecimal digits, colons and points. -/
theorem isOfAddress_of_parse {a : Ipv6} {cs : List Char} (h : parse cs = some a) :
    ∀ c ∈ cs, IsOfAddress c := by
  rw [parse] at h
  split at h
  · obtain ⟨ps, hps, -⟩ := Option.bind_eq_some_iff.1 h
    exact isOfAddress_of_run? hps
  · rename_i before after hgap
    simp only at h
    split at h
    · cases h
    obtain ⟨ps, hps, h⟩ := Option.bind_eq_some_iff.1 h
    obtain ⟨qs, hqs, -⟩ := Option.bind_eq_some_iff.1 h
    rw [splitAtGap_eq_some hgap]
    have hcolon : IsOfAddress ':' := .inr (.inl rfl)
    exact List.forall_mem_append.2 ⟨isOfAddress_of_run? hps, List.forall_mem_cons.2
      ⟨hcolon, List.forall_mem_cons.2 ⟨hcolon, isOfAddress_of_run? hqs⟩⟩⟩

end Ipv6

/-! ### Domains -/

/-- A character that stands for itself, and not for a byte or a part of one, gives its bytes. -/
theorem mem_decode {c : Char} {b : UInt8} {s : List Char} (h : c ∈ s) (hb : b ∈ Utf8.encodeChar c)
    (hpercent : c ≠ '%') (hhex : Text.hexValue? c = none) : b ∈ decode s := by
  have hne : ∀ {x : Char} {n : Nat}, Text.hexValue? x = some n → c ≠ x := by
    rintro x n hx rfl
    cases hhex.symm.trans hx
  fun_induction decode s with
  | case1 => cases h
  | case2 x y rest m n hy hx ih =>
    have hrest : c ∈ rest := by simpa [hpercent, hne hx, hne hy] using h
    exact .tail _ (ih hrest)
  | case3 x y rest _ ih =>
    have hrest : c ∈ x :: y :: rest := by simpa [hpercent] using h
    exact .tail _ (ih hrest)
  | case4 d rest _ ih =>
    rcases List.mem_cons.1 h with rfl | h
    · exact List.mem_append_left _ hb
    · exact List.mem_append_right _ (ih h)

/-- A character that is forbidden in a domain. -/
def IsBarred (c : Char) : Prop :=
  c.toNat < 0x80 ∧ isForbidden c = true

instance (c : Char) : Decidable (IsBarred c) :=
  inferInstanceAs (Decidable (_ ∧ _))

/-- A barred character has no place in a domain. -/
theorem IsBarred.mapChar_eq_none {c : Char} (h : IsBarred c) : mapChar c = none := by
  rw [mapChar, if_pos h.1, if_pos h.2]

/-- A barred character is no digit. -/
theorem IsBarred.hexValue?_eq_none {c : Char} (h : IsBarred c) : Text.hexValue? c = none := by
  have hall : ∀ n < 0x80, isForbidden (.ofNat n) = true → Text.hexValue? (.ofNat n) = none := by
    decide
  have hc := hall c.toNat h.1
  rw [Char.ofNat_toNat] at hc
  exact hc h.2

/-- A text that is read as a domain has no character that is forbidden in one, except for the
percent sign. -/
theorem eq_percent_of_domain {s name : List Char}
    (h : (Utf8.decode (decode s)).toOption.bind domainToAscii = some name) :
    ∀ c ∈ s, IsBarred c → c = '%' := by
  intro c hc hbarred
  refine Classical.byContradiction fun hpercent ↦ ?_
  obtain ⟨t, ht, hname⟩ := Option.bind_eq_some_iff.1 h
  have hbytes : decode s = Utf8.encode t := by
    cases hdecode : Utf8.decode (decode s) with
    | error e =>
      rw [hdecode] at ht
      cases ht
    | ok t' =>
      rw [hdecode] at ht
      cases ht
      exact Utf8.decode_eq_ok_iff.1 hdecode
  -- the character is below `0x80`, so its byte stands for it wherever it is found
  have hbyte : UInt8.ofNat c.toNat ∈ Utf8.encodeChar c := by
    rw [Utf8.encodeChar.eq_def]
    exact if_pos hbarred.1 ▸ List.mem_singleton_self _
  have hmem := mem_decode hc hbyte hpercent hbarred.hexValue?_eq_none
  have hvalue : (UInt8.ofNat c.toNat).toNat = c.toNat :=
    Utf8.toNat_ofNat_of_lt (Nat.lt_trans hbarred.1 (by decide))
  have hct : c ∈ t := by
    have hfound := Utf8.mem_of_mem_encode (hvalue ▸ hbarred.1) (hbytes ▸ hmem)
    rwa [hvalue, Char.ofNat_toNat] at hfound
  obtain ⟨mapped, hmapped, -⟩ := Option.bind_eq_some_iff.1 hname
  obtain ⟨target, htarget⟩ := exists_of_mapM_eq_some hmapped c hct
  rw [hbarred.mapChar_eq_none] at htarget
  cases htarget

/-! ### Hosts -/

/-- A text that is read as a host is an address between brackets, or has no character that is
forbidden in a domain, except for the percent sign. -/
theorem Host.cases_of_parse {s : List Char} {host : Host} (h : Host.parse s = .ok host) :
    (∃ inner, s = '[' :: (inner ++ [']']) ∧ ∀ c ∈ inner, Ipv6.IsOfAddress c) ∨
      s ≠ [] ∧ ∀ c ∈ s, IsBarred c → c = '%' := by
  rw [Host.parse.eq_def] at h
  split at h
  · cases h
  · rename_i inner
    split at h
    case isFalse => cases h
    case isTrue hlast =>
      left
      obtain ⟨inner, rfl⟩ := List.getLast?_eq_some_iff.1 hlast
      rw [List.dropLast_concat] at h
      split at h
      · rename_i a ha
        exact ⟨inner, rfl, Ipv6.isOfAddress_of_parse ha⟩
      · cases h
  · right
    rename_i hne _
    refine ⟨fun hnil ↦ hne hnil, ?_⟩
    split at h
    · rename_i name hname
      exact eq_percent_of_domain hname
    · cases h

end LspClient.Url
