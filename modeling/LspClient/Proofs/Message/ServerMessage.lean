import LspClient.Message.Response
import LspClient.Proofs.Json.Records

/-!
# Messages of the server's own

A message is the server's own if it is an object of which one member, and only one, is named
`method`, and the value of that member is not `null` (`OnServersInitiative`). Such a message is
recognised however it is laid out and whatever its other members are
(`isServerMessage_of_initiative`); an object without a member of that name is not
(`isServerMessage_of_none`).
-/

namespace LspClient

open Json

/-- The name of the member that marks a message of the server's own. -/
def methodName : List Char :=
  "method".toList

/-- The text of the value that does not count. -/
def nullText : List Char :=
  ['n', 'u', 'l', 'l']

/-- An object, with blanks around it, in which one member and only one is named `method`, and its
value is not `null`. -/
def OnServersInitiative (message : String) : Prop :=
  ∃ (before behind : Blank) (ms : List (List Char × List Char)) (s value : List Char),
    HasMembers ms s ∧ message.toList = before.chars ++ '{' :: (s ++ '}' :: behind.chars) ∧
      ms.filter (fun m ↦ m.1 = methodName) = [(methodName, value)] ∧ value ≠ nullText

/-! ### Reading the members -/

/-- What a member makes of what is known of `method`. -/
def noteMember (state : Option Bool) (m : List Char × List Char) : Option Bool :=
  if m.1 = methodName then some (decide (m.2 ≠ nullText)) else state

/-- The only value that begins like `null` is `null`. -/
theorem eq_nullText {r : List Char} (h : Derives .value ('n' :: r)) : 'n' :: r = nullText := by
  generalize hs : 'n' :: r = s at h
  cases h with
  | nullWord => rfl
  | natural h =>
    obtain ⟨c, r', rfl, hc⟩ := h.exists_cons
    injection hs with hn
    exact absurd hn.symm (ne_of_isDigit hc (by decide))
  | trueWord => cases hs
  | falseWord => cases hs
  | negative h => cases hs
  | string h => cases hs
  | noElements b => cases hs
  | array h => cases hs
  | noMembers b => cases hs
  | object h => cases hs

/-- Of a value it is only found out whether it is `null`. -/
theorem orNull_skipValue {s behind : List Char} (h : Derives .value s) (between : Blank)
    (hbehind : Stops behind) :
    ∃ v, Reads (orNull skipValue (between.chars ++ (s ++ behind))) v behind ∧
      v.isSome = decide (s ≠ nullText) := by
  have hskip := h.skipSpace_append between behind
  by_cases hnull : s = nullText
  · subst hnull
    refine ⟨none, orNull_null hskip, ?_⟩
    rw [decide_eq_false (not_not_intro rfl)]
    rfl
  · have hread := skipValue_derives h between hbehind
    obtain ⟨c, r, rfl, -⟩ := h.exists_cons
    have hc : c ≠ 'n' := by
      rintro rfl
      exact hnull (eq_nullText h)
    refine ⟨some (), orNull_some hskip hc hread, ?_⟩
    rw [decide_eq_true hnull]
    rfl

/-- A member is read, if it is not a second one named `method`. -/
theorem strip_methodMember {state : Option Bool} {cs name s behind : List Char}
    (hname : Spells cs name) (after between : Blank) (h : Derives .value s)
    (hbehind : Stops behind) (hstate : cs = methodName → state = none) :
    strip (methodRecord.readMember state
        (name ++ '"' :: (after.chars ++ ':' :: (between.chars ++ (s ++ behind))))) =
      .ok (noteMember state (cs, s), behind) := by
  have hcolon := skipSpace_colon after (between.chars ++ (s ++ behind))
  rw [TextRecord.strip_readMember (stringTail_append hname [] _), List.reverse_nil,
    List.nil_append]
  by_cases hcs : cs = methodName
  · obtain ⟨v, hread, hv⟩ := orNull_skipValue h between hbehind
    obtain rfl := hstate hcs
    simp only [methodRecord, if_pos (show cs = "method".toList from hcs), Option.isSome_none,
      Bool.false_eq_true, if_false]
    rw [strip_map, strip_afterColon _ hcolon, strip_eq_ok.2 hread, noteMember, if_pos hcs, ← hv]
    rfl
  · have hread := skipValue_derives h between hbehind
    simp only [methodRecord, if_neg (show ¬ cs = "method".toList from hcs)]
    rw [strip_map, strip_afterColon _ hcolon, strip_eq_ok.2 hread, noteMember, if_neg hcs]
    rfl

theorem state_eq_none {state : Option Bool} {m : List Char × List Char}
    {ms : List (List Char × List Char)}
    (hcount : ((m :: ms).filter fun m ↦ m.1 = methodName).length + state.toList.length ≤ 1)
    (hm : m.1 = methodName) : state = none := by
  rw [List.filter_cons_of_pos (by simpa using hm), List.length_cons] at hcount
  cases state with
  | none => rfl
  | some b =>
    rw [Option.toList_some, List.length_singleton] at hcount
    omega

/-- The members are read one after another, if `method` does not come twice. -/
theorem strip_methodMembers {ms : List (List Char × List Char)} {s : List Char}
    (h : HasMembers ms s) {first : Bool} {state : Option Bool} {t rest : List Char}
    (ht : Follows first t (s ++ '}' :: rest))
    (hcount : (ms.filter fun m ↦ m.1 = methodName).length + state.toList.length ≤ 1) :
    strip (methodRecord.readMembers first state t) = .ok (ms.foldl noteMember state, rest) := by
  induction h generalizing first state t with
  | @one before cs name hname after between s h behind =>
    rw [List.append_assoc] at ht
    rw [TextRecord.strip_readMembers_member ht.ahead, strip_methodMember hname after between h
      (stops_of_blank behind (by decide) rest) (state_eq_none hcount)]
    exact TextRecord.strip_readMembers_end _ (skipSpace_mark (by decide) behind rest)
  | @cons before cs name hname after between s h behind ms t' _ ih =>
    rw [List.append_assoc, List.append_assoc, List.cons_append] at ht
    rw [TextRecord.strip_readMembers_member ht.ahead, strip_methodMember hname after between h
      (stops_of_blank behind (by decide) _) (state_eq_none hcount)]
    refine ih ⟨behind, rfl⟩ ?_
    by_cases hcs : cs = methodName
    · obtain rfl := state_eq_none hcount hcs
      rw [List.filter_cons_of_pos (by simpa using hcs)] at hcount
      simpa [noteMember, hcs] using hcount
    · rw [List.filter_cons_of_neg (by simpa using hcs)] at hcount
      rw [noteMember, if_neg hcs]
      exact hcount

/-! ### Recognising messages -/

theorem isServerMessage_of_members {message : String} {before behind : Blank}
    {ms : List (List Char × List Char)} {s : List Char} (h : HasMembers ms s)
    (htext : message.toList = before.chars ++ '{' :: (s ++ '}' :: behind.chars))
    (hcount : (ms.filter fun m ↦ m.1 = methodName).length ≤ 1) :
    isServerMessage message = (ms.foldl noteMember none).getD false := by
  have hskip : skipSpace message.toList = '{' :: (s ++ '}' :: behind.chars) := by
    rw [htext, skipSpace_append, skipSpace_cons (by decide)]
  have hrest : skipSpace behind.chars = [] := by
    have hnil := skipSpace_append behind []
    rwa [List.append_nil] at hnil
  have hread : methodRecord.read message.toList = .ok (ms.foldl noteMember none) := by
    rw [TextRecord.read_object hskip]
    have hmembers : strip (methodRecord.readMembers true none (s ++ '}' :: behind.chars)) =
        .ok (ms.foldl noteMember none, behind.chars) := strip_methodMembers h rfl hcount
    rw [show methodRecord.start = none from rfl, hmembers]
    simp only [Except.bind, TextRecord.finish, hrest]
  rw [isServerMessage, hread]

/-- What is known of `method` at the end is what the members of that name say. -/
theorem foldl_noteMember (ms : List (List Char × List Char)) (state : Option Bool) :
    ms.foldl noteMember state =
      (ms.filter fun m ↦ m.1 = methodName).foldl noteMember state := by
  induction ms generalizing state with
  | nil => rfl
  | cons m ms ih =>
    by_cases hm : m.1 = methodName
    · rw [List.filter_cons_of_pos (by simpa using hm)]
      exact ih _
    · rw [List.filter_cons_of_neg (by simpa using hm), List.foldl_cons, noteMember, if_neg hm]
      exact ih state

/-- Every message of the server's own is recognised. -/
theorem isServerMessage_of_initiative {message : String} (h : OnServersInitiative message) :
    isServerMessage message = true := by
  obtain ⟨before, behind, ms, s, value, hmembers, htext, hfilter, hvalue⟩ := h
  rw [isServerMessage_of_members hmembers htext (by rw [hfilter]; exact Nat.le_refl 1),
    foldl_noteMember, hfilter, List.foldl_cons, List.foldl_nil, noteMember, if_pos rfl,
    decide_eq_true hvalue]
  rfl

/-- An object without a member of that name is no message of the server's own. -/
theorem isServerMessage_of_none {message : String} {before behind : Blank}
    {ms : List (List Char × List Char)} {s : List Char} (h : HasMembers ms s)
    (htext : message.toList = before.chars ++ '{' :: (s ++ '}' :: behind.chars))
    (hfilter : ms.filter (fun m ↦ m.1 = methodName) = []) : isServerMessage message = false := by
  rw [isServerMessage_of_members h htext (by rw [hfilter]; exact Nat.zero_le 1),
    foldl_noteMember, hfilter]
  rfl

end LspClient
