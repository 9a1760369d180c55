import Mathlib.Data.List.Basic
import Mathlib.Data.List.TakeWhile
import LspClient.Proofs.Decimal.Whole
import LspClient.Proofs.Text.Blank
import LspClient.Proofs.Url.Host

/-!
# Where a URL leads

A URL is read in two parts: the text up to the first slash, question mark or number sign behind the
slashes at its front says where the server is, and the rest says what is asked of it. Where a slash
follows some text, the first part is found in that text alone (`parse_append_slash`), whatever
stands behind the slash.

The first part is a host and a port, and a user in front of them. Without a user, a text in front of
a port is read as a host, as a whole (`Authority.parse_append_port_eq_ok_iff`): no earlier colon
ends a host that a port follows.
-/

namespace LspClient.Url

variable {p : Char → Bool} {c : Char} {s t : List Char}

/-! ### Scanning up to a character -/

theorem takeWhile_append_cons (hc : p c = false) (s t : List Char) :
    (s ++ c :: t).takeWhile p = s.takeWhile p := by
  induction s with
  | nil => simp [hc]
  | cons d s ih => simp [List.takeWhile_cons, ih]

theorem dropWhile_append_cons (hc : p c = false) (s t : List Char) :
    (s ++ c :: t).dropWhile p = s.dropWhile p ++ c :: t := by
  induction s with
  | nil => simp [hc]
  | cons d s ih =>
    rw [List.cons_append, List.dropWhile_cons, List.dropWhile_cons, ih]
    split <;> rfl

/-- A slash stops what is dropped of a text. -/
theorem clean_append_slash (s t : List Char) :
    clean (s ++ '/' :: t) = s.filter (fun c ↦ !isLayout c) ++ '/' :: clean t := by
  rw [clean, Text.dropEndWhile_append_cons (by decide), List.filter_append,
    List.filter_cons_of_pos (by decide)]
  rfl

/-! ### The two parts of a URL -/

/-- What is left of a text that a slash follows, when tabs, line ends and the slashes at its front
are dropped. -/
def begun (s : List Char) : List Char :=
  (s.filter fun c ↦ !isLayout c).dropWhile isSlash

/-- The part of such a text that says where the server is. -/
def serverText (s : List Char) : List Char :=
  (begun s).takeWhile fun c ↦ !endsAuthority c

/-- The part of such a text that is already asked of the server. -/
def spilled (s : List Char) : List Char :=
  (begun s).dropWhile fun c ↦ !endsAuthority c

/-- The URL of a server, with a text that says what is asked of it. -/
def Authority.url (a : Authority) (asked : List Char) : Url where
  user := a.user
  password := a.password
  host := a.host
  port := a.port
  path := pathOf (asked.takeWhile fun c ↦ !endsPath c)
  query := queryOf (asked.dropWhile fun c ↦ !endsPath c)
  fragment := fragmentOf (asked.dropWhile fun c ↦ !endsPath c)

/-- **Nothing behind a slash has a say in where the server is.** There is something else than
slashes before it. -/
theorem parse_append_slash (hc : c ∈ s) (hslash : isSlash c = false) (hlayout : isLayout c = false)
    (t : List Char) :
    parse (.ofList (s ++ '/' :: t)) =
      (Authority.parse (serverText s)).map (·.url (spilled s ++ '/' :: clean t)) := by
  have hkept : c ∈ s.filter fun c ↦ !isLayout c := List.mem_filter.2 ⟨hc, by simp [hlayout]⟩
  have hbegun : (clean (s ++ '/' :: t)).dropWhile isSlash = begun s ++ '/' :: clean t := by
    rw [clean_append_slash, List.dropWhile_append, if_neg]
    · rfl
    · intro hnil
      have hall := List.takeWhile_append_dropWhile (p := isSlash) (l := s.filter (!isLayout ·))
      rw [List.isEmpty_iff.1 hnil, List.append_nil] at hall
      have hfound := List.all_eq_true.1 List.all_takeWhile c (hall ▸ hkept)
      simp [hslash] at hfound
  have hends : (!endsAuthority '/') = false := by decide
  rw [parse, String.toList_ofList, hbegun, takeWhile_append_cons hends, dropWhile_append_cons hends]
  show (Authority.parse (serverText s)).bind _ = _
  cases Authority.parse (serverText s) <;> rfl

/-! ### Hosts before a port -/

/-- A character that ends the text of a server, or is dropped from it, or ends the user in it. -/
def isBreak (c : Char) : Bool :=
  endsAuthority c || isLayout c || c == '@'

theorem isBreak_eq_false_iff :
    isBreak c = false ↔ endsAuthority c = false ∧ isLayout c = false ∧ c ≠ '@' := by
  simp only [isBreak, Bool.or_eq_false_iff, beq_eq_false_iff_ne, and_assoc]

theorem eq_of_isBreak (h : isBreak c = true) : c = '/' ∨ c = '\\' ∨ c = '?' ∨ c = '#' ∨ c = '\t' ∨
    c = '\n' ∨ c = '\r' ∨ c = '@' := by
  simpa [isBreak, endsAuthority, isSlash, endsPath, isLayout, or_assoc] using h

theorem isBreak_of_isDigit (h : c.isDigit = true) : isBreak c = false := by
  refine Bool.eq_false_iff.2 fun hbreak ↦ ?_
  rcases eq_of_isBreak hbreak with rfl | rfl | rfl | rfl | rfl | rfl | rfl | rfl <;>
    exact absurd h (by decide)

/-- No character of a host breaks the text of a server. -/
theorem isBreak_of_parse {host : Host} (h : Host.parse s = .ok host) :
    ∀ c ∈ s, isBreak c = false := by
  intro c hc
  refine Bool.eq_false_iff.2 fun hbreak ↦ ?_
  obtain ⟨hbar, hpercent, haddress⟩ : IsBarred c ∧ c ≠ '%' ∧ ¬Ipv6.IsOfAddress c := by
    rcases eq_of_isBreak hbreak with rfl | rfl | rfl | rfl | rfl | rfl | rfl | rfl <;> decide
  rcases Host.cases_of_parse h with ⟨inner, rfl, hinner⟩ | ⟨-, hall⟩
  · rcases List.mem_cons.1 hc with rfl | hc
    · cases hbreak
    rcases List.mem_append.1 hc with hc | hc
    · exact haddress (hinner c hc)
    · obtain rfl := List.mem_singleton.1 hc
      cases hbreak
  · exact hpercent (hall c hc hbar)

/-- Between brackets a colon does not end the text of a host. -/
theorem hostText_inside (h : ']' ∉ s) (t : List Char) :
    hostText true (s ++ ']' :: t) = s ++ ']' :: hostText false t := by
  induction s with
  | nil => simp [hostText]
  | cons c s ih =>
    rw [List.mem_cons, not_or] at h
    simp [hostText, ih h.2, Ne.symm h.1]

/-- Outside of them it does. -/
theorem hostText_outside (h : ∀ c ∈ s, c ≠ ':' ∧ c ≠ '[') (t : List Char) :
    hostText false (s ++ ':' :: t) = s := by
  induction s with
  | nil => simp [hostText]
  | cons c s ih =>
    obtain ⟨⟨hcolon, hopen⟩, hs⟩ := List.forall_mem_cons.1 h
    simp [hostText, ih hs, hcolon, hopen]

/-- A text that is read as a host is the text of the host before a port. -/
theorem hostText_of_parse {host : Host} (h : Host.parse s = .ok host) (t : List Char) :
    hostText false (s ++ ':' :: t) = s := by
  rcases Host.cases_of_parse h with ⟨inner, rfl, hinner⟩ | ⟨-, hall⟩
  · have hclose : ']' ∉ inner := fun hmem ↦ absurd (hinner _ hmem) (by decide)
    have hbrackets := hostText_inside hclose (':' :: t)
    simp [hostText, hbrackets]
  · refine hostText_outside (fun c hc ↦ ⟨?_, ?_⟩) t
    · rintro rfl
      exact absurd (hall _ hc (by decide)) (by decide)
    · rintro rfl
      exact absurd (hall _ hc (by decide)) (by decide)

/-- Between brackets that are not closed, the text of a host goes on to the end. -/
theorem hostText_unclosed (h : ']' ∉ s) : hostText true s = s := by
  induction s with
  | nil => rfl
  | cons c s ih =>
    rw [List.mem_cons, not_or] at h
    simp [hostText, ih h.2, Ne.symm h.1]

/-- The text of a host goes on at every character but a colon outside of brackets. -/
theorem hostText_cons {inside : Bool} (h : ¬(c = ':' ∧ inside = false)) :
    ∃ next, ∀ s, hostText inside (c :: s) = c :: hostText next s := by
  have hgo : ¬(c = ':' ∧ !inside) := by simpa using h
  simp only [hostText, if_neg hgo]
  split
  · exact ⟨true, fun _ ↦ rfl⟩
  split
  · exact ⟨false, fun _ ↦ rfl⟩
  · exact ⟨inside, fun _ ↦ rfl⟩

/-- Before a port, the text of a host is the whole text, or it ends at an earlier colon, or a
bracket is open and it goes on to the end. -/
theorem hostText_cases (inside : Bool) (s : List Char) {t : List Char} (ht : ']' ∉ t) :
    hostText inside (s ++ ':' :: t) = s ∨
      (∃ s₁ s₂, s = s₁ ++ ':' :: s₂ ∧ hostText inside (s ++ ':' :: t) = s₁) ∨
      hostText inside (s ++ ':' :: t) = s ++ ':' :: t := by
  induction s generalizing inside with
  | nil =>
    cases inside with
    | false => exact .inl (by simp [hostText])
    | true => exact .inr (.inr (hostText_unclosed (by simpa using ht)))
  | cons c s ih =>
    by_cases hend : c = ':' ∧ inside = false
    · obtain ⟨rfl, rfl⟩ := hend
      exact .inr (.inl ⟨[], s, rfl, by simp [hostText]⟩)
    · obtain ⟨next, hnext⟩ := hostText_cons hend
      rw [List.cons_append, hnext]
      rcases ih next with h | ⟨s₁, s₂, rfl, h⟩ | h
      · exact .inl (by rw [h])
      · exact .inr (.inl ⟨c :: s₁, s₂, rfl, by rw [h]⟩)
      · exact .inr (.inr (by rw [h]))

/-! ### Ports -/

/-- The digits of a port are none of the characters that stand between the parts of an authority. -/
theorem ne_of_mem_digits {n : Nat} (h : c ∈ Decimal.digits n) : c ≠ ']' ∧ c ≠ '@' := by
  have hdigit := Decimal.isDigit_of_mem_digits h
  constructor <;> rintro rfl <;> exact absurd hdigit (by decide)

/-- A port is read from its digits. -/
theorem portOf_digits {port : Nat} (h : port ≤ greatestPort) :
    portOf (Decimal.digits port) = .ok (if port = standardPort then none else some port) := by
  have hread : Decimal.readDigits greatestPort 0 (Decimal.digits port) = .ok port :=
    Decimal.readDigits_zero_eq_ok_iff.2
      ⟨fun _ ↦ Decimal.isDigit_of_mem_digits, Decimal.value_digits port, h⟩
  have hne : Decimal.digits port ≠ [] := Nat.toDigits_ne_nil
  rw [portOf, if_neg hne, hread]

/-- The text of a port has no colon. -/
theorem colon_not_mem_of_portOf {port : Option Nat} (h : portOf s = .ok port) : ':' ∉ s := by
  intro hmem
  rw [portOf, if_neg (List.ne_nil_of_mem hmem)] at h
  split at h
  · rename_i hread
    exact absurd (Decimal.isDigit_of_readDigits hread _ hmem) (by decide)
  · cases h

/-! ### Servers without a user -/

theorem splitAtLast_eq_none {sep : Char} (h : sep ∉ s) : splitAtLast sep s = none := by
  rw [splitAtLast, Text.splitAtFirst_eq_none_iff.2 (by rwa [List.mem_reverse]), Option.map_none]

namespace Authority

variable {a : Authority} {port : Nat}

/-- Without a user, the text is that of a host, and what follows it is a port. -/
theorem parse_eq_ok_iff_of_not_mem (h : '@' ∉ s) :
    parse s = .ok a ↔ ∃ host port, Host.parse (hostText false s) = .ok host ∧
      portOf ((s.drop (hostText false s).length).drop 1) = .ok port ∧
      a = ⟨[], none, host, port⟩ := by
  rw [parse, splitAtLast_eq_none h, Option.getD_none]
  constructor
  · intro hparse
    cases hhost : Host.parse (hostText false s) with
    | error fault =>
      simp only [hhost] at hparse
      cases hparse
    | ok host =>
      cases hport : portOf ((s.drop (hostText false s).length).drop 1) with
      | error fault =>
        simp only [hhost, hport] at hparse
        cases hparse
      | ok port =>
        simp only [hhost, hport] at hparse
        cases hparse
        exact ⟨host, port, rfl, rfl, rfl⟩
  · rintro ⟨host, port, hhost, hport, rfl⟩
    show (Host.parse (hostText false s)).bind _ = _
    rw [hhost]
    show (portOf _).bind _ = _
    rw [hport]
    rfl

/-- **A server without a user is read from its host and its port**: the text before the port is read
as a host, as a whole. -/
theorem parse_append_port_eq_ok_iff (hat : '@' ∉ s) (hport : port ≤ greatestPort) :
    parse (s ++ ':' :: Decimal.digits port) = .ok a ↔ ∃ host, Host.parse s = .ok host ∧
      a = ⟨[], none, host, if port = standardPort then none else some port⟩ := by
  have hwhole : '@' ∉ s ++ ':' :: Decimal.digits port := by
    simp only [List.mem_append, List.mem_cons, not_or]
    exact ⟨hat, by decide, fun hmem ↦ (ne_of_mem_digits hmem).2 rfl⟩
  have hdrop : ((s ++ ':' :: Decimal.digits port).drop s.length).drop 1 = Decimal.digits port := by
    rw [List.drop_left, List.drop_one, List.tail_cons]
  rw [parse_eq_ok_iff_of_not_mem hwhole]
  constructor
  · rintro ⟨host, found, hhost, hfound, rfl⟩
    rcases hostText_cases false s fun hmem ↦ (ne_of_mem_digits hmem).1 rfl with
      h | ⟨s₁, s₂, rfl, h⟩ | h
    · rw [h, hdrop, portOf_digits hport] at hfound
      cases hfound
      exact ⟨host, by rwa [h] at hhost, rfl⟩
    · -- the text after an earlier colon has the colon of the port in it
      rw [h, List.append_assoc, List.drop_left] at hfound
      exact absurd (by simp) (colon_not_mem_of_portOf hfound)
    · -- an open bracket is closed at the end of no text that ends in a port
      rw [h] at hhost
      rcases Host.cases_of_parse hhost with ⟨inner, heq, -⟩ | ⟨-, hall⟩
      · have hlast : (Decimal.digits port).getLast? = some ']' := by
          have hne : Decimal.digits port ≠ [] := Nat.toDigits_ne_nil
          have hends := congrArg List.getLast? heq
          rwa [List.getLast?_append_cons, ← List.cons_append,
            List.getLast?_concat, List.getLast?_cons_of_ne_nil hne] at hends
        exact absurd rfl (ne_of_mem_digits (List.mem_of_getLast? hlast)).1
      · exact absurd (hall ':' (by simp) (by decide)) (by decide)
  · rintro ⟨host, hhost, rfl⟩
    have htext := hostText_of_parse hhost (Decimal.digits port)
    exact ⟨host, _, by rwa [htext], by rw [htext, hdrop, portOf_digits hport], rfl⟩

end Authority

/-! ### Texts of servers that nothing breaks -/

theorem begun_of_forall (h : ∀ c ∈ s, isBreak c = false) : begun ('/' :: '/' :: s) = s := by
  have hkept : ('/' :: '/' :: s).filter (!isLayout ·) = '/' :: '/' :: s := by
    refine List.filter_eq_self.2 fun c hc ↦ ?_
    rcases List.mem_cons.1 hc with rfl | hc
    · rfl
    rcases List.mem_cons.1 hc with rfl | hc
    · rfl
    · rw [(isBreak_eq_false_iff.1 (h c hc)).2.1]
      rfl
  rw [begun, hkept, List.dropWhile_cons_of_pos (by decide), List.dropWhile_cons_of_pos (by decide)]
  cases s with
  | nil => rfl
  | cons c s =>
    have hends := (isBreak_eq_false_iff.1 (h c List.mem_cons_self)).1
    rw [endsAuthority, Bool.or_eq_false_iff] at hends
    rw [List.dropWhile_cons_of_neg (by simp [hends.1])]

theorem serverText_of_forall (h : ∀ c ∈ s, isBreak c = false) :
    serverText ('/' :: '/' :: s) = s ∧ spilled ('/' :: '/' :: s) = [] := by
  have hends : ∀ c ∈ s, (!endsAuthority c) = true := fun c hc ↦ by
    rw [(isBreak_eq_false_iff.1 (h c hc)).1]
    rfl
  rw [serverText, spilled, begun_of_forall h]
  exact ⟨List.takeWhile_eq_self_iff.2 hends, List.dropWhile_eq_nil_iff.2 hends⟩

/-! ### Texts of URLs -/

/-- A URL as far as it says where the server is. -/
def server (u : Url) : List Char :=
  "http://".toList ++ u.shownUser ++ u.host.shown ++ (u.port.map (':' :: Decimal.digits ·)).getD []

theorem shown_eq (u : Url) : u.shown =
    .ofList (u.server ++ u.target ++ (u.fragment.map ('#' :: ·)).getD []) :=
  rfl

/-- The text of a URL begins with where the server is. -/
theorem shown_eq_server_append (u : Url) :
    ∃ asked : List Char, u.shown = .ofList (u.server ++ asked) := by
  refine ⟨u.target ++ (u.fragment.map ('#' :: ·)).getD [], ?_⟩
  rw [shown_eq, List.append_assoc]

/-- Two URLs lead to the same server, as the same user. -/
structure SameServer (u v : Url) : Prop where
  user : u.user = v.user
  password : u.password = v.password
  host : u.host = v.host
  port : u.port = v.port
  /-- The texts of both begin with where the server is. -/
  shown : ∃ asked asked', u.shown = .ofList (u.server ++ asked) ∧
    v.shown = .ofList (u.server ++ asked')

/-- What is asked of a server does not change where it is. -/
theorem Authority.sameServer (a : Authority) (asked asked' : List Char) :
    SameServer (a.url asked) (a.url asked') where
  user := rfl
  password := rfl
  host := rfl
  port := rfl
  shown := by
    obtain ⟨r, hr⟩ := shown_eq_server_append (a.url asked)
    obtain ⟨r', hr'⟩ := shown_eq_server_append (a.url asked')
    exact ⟨r, r', hr, hr'⟩

end LspClient.Url
