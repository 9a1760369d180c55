import LspClient.Proofs.Message.Accepted
import LspClient.Proofs.Message.ServerMessage
import LspClient.Proofs.Transport.Exchange

/-!
# Which messages are recognised

A message is taken for one of the server's own exactly if it is one (`OnServersInitiative`), or an
array of one element that is not `null` (`IsLoneElement`): the one member that is looked for is also
looked for at the first place of an array. These are the messages that are skipped by a transport
that waits for a response (`awaitResponse_recognised`).

An object with a member whose name cannot be read, because of a surrogate that is alone, is no
message of the server's own, although the skipping reader accepts it.
-/

namespace LspClient

open Json

/-- An array, with blanks around it, of one element that is not `null`. -/
def IsLoneElement (message : String) : Prop :=
  ∃ (before inner after behind : Blank) (value : List Char),
    message.toList =
        before.chars ++ '[' :: (inner.chars ++ (value ++ (after.chars ++ ']' :: behind.chars))) ∧
      Derives .value value ∧ value ≠ nullText

variable {s r : List Char}

/-! ### What is found out -/

/-- What a member makes of what is known of `method`, none being for a second one of that name. -/
def noteOnce (state : Option Bool) (m : List Char × List Char) : Option (Option Bool) :=
  if m.1 = methodName ∧ state.isSome then none else some (noteMember state m)

/-- Where it is found out whether a value is `null`, there is a value. -/
theorem exists_of_orNull_skipValue {v : Option Unit}
    (h : strip (orNull skipValue s) = .ok (v, r)) :
    ∃ (before : Blank) (value : List Char), s = before.chars ++ (value ++ r) ∧
      Derives .value value ∧ v.isSome = decide (value ≠ nullText) := by
  rw [orNull] at h
  split at h
  case h_1 t hnull =>
    split at h
    case h_1 => cases h
    case h_2 u hword =>
      cases h
      obtain rfl := eq_append_of_word hword
      obtain ⟨before, rfl⟩ := exists_blank hnull
      exact ⟨before, nullText, rfl, .nullWord, rfl⟩
  case h_2 hnull =>
    rw [strip_map] at h
    obtain ⟨⟨v', r'⟩, hskip, hr⟩ := exists_of_map_eq_ok h
    cases hr
    obtain ⟨before, value, rfl, hvalue⟩ := accepts_skipValue s v' _ hskip
    refine ⟨before, value, rfl, hvalue, (decide_eq_true ?_).symm⟩
    rintro rfl
    exact hnull _ (hvalue.skipSpace_append before _)

/-- What is known of `method` behind a member. -/
theorem methodRecord_notes : methodRecord.Notes noteOnce := by
  intro state name s state' r h
  simp only [methodRecord] at h
  split at h
  case isTrue hname =>
    split at h
    case isTrue => cases h
    case isFalse hstate =>
      rw [strip_map] at h
      obtain ⟨⟨v, r'⟩, hv, hr⟩ := exists_of_map_eq_ok h
      cases hr
      obtain ⟨u, hcolon, hvalue⟩ := exists_of_afterColon hv
      obtain ⟨after, rfl⟩ := exists_blank hcolon
      obtain ⟨between, value, rfl, hderives, hnull⟩ := exists_of_orNull_skipValue hvalue
      refine ⟨after, between, value, rfl, hderives, ?_⟩
      rw [noteOnce, if_neg fun hsecond ↦ hstate hsecond.2, noteMember,
        if_pos (show name = methodName from hname), ← hnull]
  case isFalse hname =>
    rw [strip_map] at h
    obtain ⟨⟨v, r'⟩, hv, hr⟩ := exists_of_map_eq_ok h
    cases hr
    obtain ⟨u, hcolon, hvalue⟩ := exists_of_afterColon hv
    obtain ⟨after, rfl⟩ := exists_blank hcolon
    obtain ⟨between, value, rfl, hderives⟩ := accepts_skipValue u v _ hvalue
    refine ⟨after, between, value, rfl, hderives, ?_⟩
    rw [noteOnce, if_neg fun hsecond ↦ hname hsecond.1, noteMember,
      if_neg (show ¬name = methodName from hname)]

/-- If every member is taken in, at most one has the name, and what is known at the end is what it
says. -/
theorem eq_foldl_of_noteOnce {ms : List (List Char × List Char)} {state state' : Option Bool}
    (h : ms.foldlM noteOnce state = some state') :
    (ms.filter fun m ↦ m.1 = methodName).length + state.toList.length ≤ 1 ∧
      state' = ms.foldl noteMember state := by
  induction ms generalizing state with
  | nil =>
    cases h
    exact ⟨by cases state' <;> simp, rfl⟩
  | cons m ms ih =>
    rw [List.foldlM_cons] at h
    by_cases hm : m.1 = methodName
    · cases state with
      | some b =>
        rw [noteOnce, if_pos ⟨hm, rfl⟩] at h
        cases h
      | none =>
        rw [noteOnce, if_neg (by simp), noteMember, if_pos hm] at h
        obtain ⟨hcount, hfold⟩ := ih h
        rw [List.filter_cons_of_pos (by simpa using hm), List.foldl_cons, noteMember, if_pos hm]
        exact ⟨by simpa using hcount, hfold⟩
    · rw [noteOnce, if_neg fun hsecond ↦ hm hsecond.1] at h
      obtain ⟨hcount, hfold⟩ := ih h
      rw [noteMember, if_neg hm] at hcount
      rw [List.filter_cons_of_neg (by simpa using hm), List.foldl_cons]
      exact ⟨hcount, hfold⟩

/-! ### Objects -/

/-- If all that is known of `method` is that it is not `null`, there is one member of that name, and
its value is not `null`. -/
theorem exists_of_foldl_noteMember {ms : List (List Char × List Char)}
    (hcount : (ms.filter fun m ↦ m.1 = methodName).length ≤ 1)
    (h : ms.foldl noteMember none = some true) :
    ∃ value, ms.filter (fun m ↦ m.1 = methodName) = [(methodName, value)] ∧ value ≠ nullText := by
  rw [foldl_noteMember] at h
  rcases hms : ms.filter fun m ↦ m.1 = methodName with _ | ⟨⟨name, value⟩, ms'⟩
  · rw [hms] at h
    cases h
  · rw [hms] at h hcount
    obtain rfl : ms' = [] := List.length_eq_zero_iff.1 (by simpa using hcount)
    have hmem : (name, value) ∈ ms.filter fun m ↦ m.1 = methodName :=
      hms ▸ List.mem_singleton_self _
    obtain rfl : name = methodName := by simpa using (List.mem_filter.1 hmem).2
    refine ⟨value, hms, ?_⟩
    simpa [noteMember] using h

/-- An object that is recognised is a message of the server's own. -/
theorem onServersInitiative_of_read {message : String} (hopen : skipSpace message.toList = '{' :: s)
    (h : methodRecord.read message.toList = .ok (some true)) : OnServersInitiative message := by
  rw [TextRecord.read_object hopen] at h
  obtain ⟨⟨state, u⟩, hmembers, hfinish⟩ := exists_of_bind_eq_ok h
  obtain ⟨hstate, hend⟩ := TextRecord.finish_eq_ok hfinish
  dsimp only at hstate hend
  subst hstate
  obtain ⟨before, htext⟩ := exists_blank hopen
  obtain ⟨behind, rfl⟩ := exists_blank hend
  rcases methodRecord_notes.exists_of_readMembers hmembers with
    ⟨-, hstate⟩ | ⟨ms, t, rfl, hms, hfold⟩
  · cases hstate
  · obtain ⟨hcount, hfold⟩ := eq_foldl_of_noteOnce hfold
    obtain ⟨value, hfilter, hvalue⟩ := exists_of_foldl_noteMember hcount hfold.symm
    refine ⟨before, behind, ms, t, value, hms, ?_, hfilter, hvalue⟩
    rw [htext, List.append_nil]

/-! ### Arrays -/

/-- The first place of an array is read as `method` is. -/
theorem exists_of_readElements {state : Option Bool}
    (h : strip (methodRecord.readElements 0 none s) = .ok (state, r)) :
    (skipSpace s = ']' :: r ∧ state = none) ∨
    ∃ (inner after : Blank) (value : List Char),
      s = inner.chars ++ (value ++ (after.chars ++ ']' :: r)) ∧ Derives .value value ∧
        state = some (decide (value ≠ nullText)) := by
  rcases TextRecord.begins_of_readElements h with ⟨r', hend⟩ | ⟨read, c, t, hread, hbegins, hc⟩
  · rw [TextRecord.strip_readElements_end hend] at h
    cases h
    exact .inl ⟨hend, rfl⟩
  · rw [TextRecord.strip_readElements_item hread hbegins hc] at h
    obtain ⟨⟨state₁, u⟩, hvalue, hrest⟩ := exists_of_bind_eq_ok h
    cases hread
    rw [strip_map] at hvalue
    obtain ⟨⟨v, u'⟩, hnull, hu⟩ := exists_of_map_eq_ok hvalue
    cases hu
    obtain ⟨inner, value, hinner, hderives, hsome⟩ := exists_of_orNull_skipValue hnull
    -- there is no second place
    rcases TextRecord.begins_of_readElements hrest with ⟨r', hend⟩ | ⟨_, _, _, hsecond, -⟩
    · rw [TextRecord.strip_readElements_end hend] at hrest
      cases hrest
      obtain ⟨outer, rfl⟩ := exists_blank (show skipSpace s = _ from hbegins)
      obtain ⟨after, hafter⟩ := exists_blank hend
      dsimp only at hafter
      refine .inr ⟨outer.append inner, after, value, ?_, hderives, by rw [hsome]⟩
      rw [hinner, hafter, Blank.append, List.append_assoc]
    · cases hsecond

/-- An array that is recognised has one element, which is not `null`. -/
theorem isLoneElement_of_read {message : String} (hopen : skipSpace message.toList = '[' :: s)
    (h : methodRecord.read message.toList = .ok (some true)) : IsLoneElement message := by
  rw [TextRecord.read_array hopen] at h
  obtain ⟨⟨state, u⟩, helements, hfinish⟩ := exists_of_bind_eq_ok h
  obtain ⟨hstate, hend⟩ := TextRecord.finish_eq_ok hfinish
  dsimp only at hstate hend
  subst hstate
  obtain ⟨before, htext⟩ := exists_blank hopen
  obtain ⟨behind, rfl⟩ := exists_blank hend
  rcases exists_of_readElements helements with ⟨-, hstate⟩ | ⟨inner, after, value, rfl, hv, hnull⟩
  · cases hstate
  · refine ⟨before, inner, after, behind, value, by rw [htext, List.append_nil], hv, ?_⟩
    simpa using hnull

/-- An array of one element that is not `null` is recognised. -/
theorem isServerMessage_of_loneElement {message : String} (h : IsLoneElement message) :
    isServerMessage message = true := by
  obtain ⟨before, inner, after, behind, value, htext, hv, hnull⟩ := h
  have hopen : skipSpace message.toList =
      '[' :: (inner.chars ++ (value ++ (after.chars ++ ']' :: behind.chars))) := by
    rw [htext, skipSpace_append, skipSpace_cons (by decide)]
  have hend : skipSpace behind.chars = [] := by
    have hnil := skipSpace_append behind []
    rwa [List.append_nil] at hnil
  obtain ⟨v, hreads, hsome⟩ := orNull_skipValue hv .none
    (stops_of_blank after (c := ']') (by decide) behind.chars)
  obtain ⟨c, t, rfl, -, hc, -⟩ := hv.exists_cons
  have helements : strip (methodRecord.readElements 0 none
      (inner.chars ++ (c :: t ++ (after.chars ++ ']' :: behind.chars)))) =
        .ok (some true, behind.chars) := by
    have hbegins : Begins (decide (0 = 0)) (inner.chars ++ (c :: t ++ (after.chars ++ ']' ::
        behind.chars))) (c :: t ++ (after.chars ++ ']' :: behind.chars)) :=
      hv.skipSpace_append inner (after.chars ++ ']' :: behind.chars)
    have hnote : strip (orNull skipValue (c :: (t ++ (after.chars ++ ']' :: behind.chars)))) =
        .ok (v, after.chars ++ ']' :: behind.chars) := strip_eq_ok.2 hreads
    rw [List.cons_append] at hbegins ⊢
    rw [TextRecord.strip_readElements_item rfl hbegins hc, strip_map, hnote]
    simp only [Except.map, Except.bind]
    rw [TextRecord.strip_readElements_end (skipSpace_mark (by decide) after behind.chars), hsome,
      decide_eq_true hnull]
  have hread : methodRecord.read message.toList = .ok (some true) := by
    rw [TextRecord.read_array hopen, show methodRecord.start = none from rfl, helements]
    simp only [Except.bind, TextRecord.finish, hend]
  rw [isServerMessage, hread]
  rfl

/-! ### All messages -/

/-- **Which messages are recognised**: the server's own, and arrays of one element that is not
`null`. -/
theorem isServerMessage_iff {message : String} :
    isServerMessage message = true ↔ OnServersInitiative message ∨ IsLoneElement message := by
  constructor
  · intro h
    have hread : methodRecord.read message.toList = .ok (some true) := by
      rw [isServerMessage] at h
      split at h
      case h_1 state hstate =>
        cases state with
        | none => cases h
        | some b => rw [hstate, show b = true from h]
      case h_2 => cases h
    obtain ⟨s, hopen | hopen⟩ := TextRecord.opening_of_read hread
    · exact .inr (isLoneElement_of_read hopen hread)
    · exact .inl (onServersInitiative_of_read hopen hread)
  · rintro (h | h)
    · exact isServerMessage_of_initiative h
    · exact isServerMessage_of_loneElement h

/-- An array of one number is recognised, although it has no members. An object with a name that is
half of a surrogate pair is not, although it is well formed and has a method. -/
theorem isServerMessage_arrayOfOne :
    isServerMessage "[1]" = true ∧ ¬OnServersInitiative "[1]" ∧
      isWellFormed "\x7b\"method\":\"x\",\"\\ud800\":1\x7d".toList = true ∧
      isServerMessage "\x7b\"method\":\"x\",\"\\ud800\":1\x7d" = false := by
  refine ⟨by decide +kernel, ?_, by decide +kernel, by decide +kernel⟩
  rintro ⟨before, behind, ms, s, value, -, htext, -⟩
  have hopen : '{' ∈ "[1]".toList := by
    rw [htext]
    simp
  exact absurd hopen (by decide)

/-! ### Waiting for a response -/

namespace Transport.Stream

/-- What is skipped is recognised. -/
theorem isServerMessage_of_mem_skipped {framing : Framing} {limit : Option Nat}
    {attempts waited : Nat} {r : Reader} {message : String}
    (h : message ∈ (awaitResponse framing limit attempts waited r).skipped) :
    isServerMessage message = true := by
  induction attempts generalizing waited r with
  | zero => cases h
  | succ attempts ih =>
    rw [awaitResponse] at h
    split at h
    case h_1 first _ =>
      split at h
      case isTrue hfirst =>
        rcases List.mem_cons.1 h with rfl | h
        · exact hfirst
        · exact ih h
      case isFalse => cases h
    case h_2 => cases h

/-- **Which messages are skipped.** A transport that waits for a response skips the messages that
are the server's own and arrays of one element that is not `null`, whatever else they contain and
however deep it is nested. It skips nothing else, and it does not bring back any of these. -/
theorem awaitResponse_recognised (framing : Framing) (limit : Option Nat) (attempts waited : Nat)
    (r : Reader) :
    (∀ message, isServerMessage message = true ↔
      OnServersInitiative message ∨ IsLoneElement message) ∧
    (∀ message ∈ (awaitResponse framing limit attempts waited r).skipped,
      OnServersInitiative message ∨ IsLoneElement message) ∧
    ∀ body, (awaitResponse framing limit attempts waited r).reading.outcome = .done body →
      ¬OnServersInitiative body ∧ ¬IsLoneElement body := by
  refine ⟨fun _ ↦ isServerMessage_iff, fun _ hmem ↦ ?_, fun body hbody ↦ ?_⟩
  · exact isServerMessage_iff.1 (isServerMessage_of_mem_skipped hmem)
  · obtain ⟨_, -, htakes⟩ := awaitResponse_incoming framing limit attempts waited r
    obtain ⟨hother, -⟩ := htakes body hbody
    rw [← not_or, ← isServerMessage_iff, hother]
    exact Bool.false_ne_true

end Transport.Stream

end LspClient
