import RaceOverlay.Proofs.DistinctKeys
import RaceOverlay.Proofs.Numerals
import RaceOverlay.Proofs.SnapshotKeys

/-!
# Checks of a snapshot

A decoded weekend is accepted as it is exactly if its running session exists and its session ids are
pairwise different. The running session is looked at first. Otherwise the id that is reported is
that of the earliest session that has the id of one before it. The message alone tells the two
errors apart. In an accepted weekend, a session is found by its id.
-/
namespace RaceOverlay

/-- The first element that repeats one stands behind a part where none does. What was read before
the list counts as read in the reverse order. -/
theorem firstRepeated?_eq_some_iff {seen : List Int} (hseen : seen.Nodup) (ids : List Int)
    (id : Int) :
    firstRepeated? seen ids = some id ↔
      ∃ before after, ids = before ++ id :: after ∧ (before.reverse ++ seen).Nodup ∧
        id ∈ before.reverse ++ seen := by
  induction ids generalizing seen with
  | nil => simp [firstRepeated?]
  | cons first ids ih =>
    rw [firstRepeated?]
    by_cases hfirst : first ∈ seen
    · rw [if_pos hfirst]
      constructor
      · intro h
        obtain rfl := Option.some.inj h
        exact ⟨[], ids, rfl, hseen, hfirst⟩
      · rintro ⟨before, after, hids, hnodup, -⟩
        cases before with
        | nil => rw [(List.cons.inj hids).1]
        | cons x before =>
          obtain ⟨rfl, -⟩ := List.cons.inj hids
          -- The part ahead would hold an element that was read already.
          have hdisjoint := (List.nodup_append.1 hnodup).2.2
          exact absurd rfl (hdisjoint first (by simp) first hfirst)
    · rw [if_neg hfirst, ih (List.nodup_cons.2 ⟨hfirst, hseen⟩)]
      constructor
      · rintro ⟨before, after, rfl, hnodup, hid⟩
        exact ⟨first :: before, after, rfl, by simpa using hnodup, by simpa using hid⟩
      · rintro ⟨before, after, hids, hnodup, hid⟩
        cases before with
        | nil =>
          obtain ⟨rfl, -⟩ := List.cons.inj hids
          exact absurd hid hfirst
        | cons x before =>
          obtain ⟨rfl, rfl⟩ := List.cons.inj hids
          exact ⟨before, after, rfl, by simpa using hnodup, by simpa using hid⟩

namespace Weekend

variable {w : Weekend}

/-- The sessions can be told apart, and one of them is running. -/
structure Usable (w : Weekend) : Prop where
  current_lt : w.current < w.sessions.length
  ids_ne : w.sessions.Pairwise fun s t => s.id ≠ t.id

/-- The id is that of the earliest session that has the id of one before it. -/
def RepeatsFirst (w : Weekend) (id : Int) : Prop :=
  ∃ before s after, w.sessions = before ++ s :: after ∧ s.id = id ∧ (∃ t ∈ before, t.id = id) ∧
    before.Pairwise fun s t => s.id ≠ t.id

theorem firstRepeated?_ids_eq_some_iff {id : Int} :
    firstRepeated? [] (w.sessions.map (·.id)) = some id ↔ w.RepeatsFirst id := by
  simp only [firstRepeated?_eq_some_iff .nil, List.append_nil, List.nodup_reverse,
    List.mem_reverse]
  constructor
  · rintro ⟨before, after, hids, hnodup, hid⟩
    obtain ⟨sessions, rest, hsessions, rfl, hrest⟩ := List.map_eq_append_iff.1 hids
    obtain ⟨s, later, rfl, rfl, rfl⟩ := List.map_eq_cons_iff.1 hrest
    exact ⟨sessions, s, later, hsessions, rfl, List.mem_map.1 hid, List.pairwise_map.1 hnodup⟩
  · rintro ⟨before, s, after, hsessions, rfl, hearlier, hne⟩
    exact ⟨before.map (·.id), after.map (·.id), by simp [hsessions], List.pairwise_map.2 hne,
      List.mem_map.2 hearlier⟩

theorem check_of_outOfRange (h : w.sessions.length ≤ w.current) :
    w.check = .error (.noCurrentSession w.current w.sessions.length) := if_pos h

theorem check_of_repeatsFirst (hcurrent : w.current < w.sessions.length) {id : Int}
    (h : w.RepeatsFirst id) : w.check = .error (.repeatedSession id) := by
  rw [check, if_neg (Nat.not_le.2 hcurrent), firstRepeated?_ids_eq_some_iff.2 h]

theorem check_of_usable (h : w.Usable) : w.check = .ok w :=
  check_eq_ok_iff.2 ⟨rfl, h.current_lt, List.pairwise_map.2 h.ids_ne⟩

theorem outOfRange_or_repeatsFirst_or_usable (w : Weekend) :
    w.sessions.length ≤ w.current ∨
      (w.current < w.sessions.length ∧ ∃ id, w.RepeatsFirst id) ∨ w.Usable := by
  rcases Nat.lt_or_ge w.current w.sessions.length with hcurrent | hcurrent
  · right
    cases hrepeated : firstRepeated? [] (w.sessions.map (·.id)) with
    | some id => exact .inl ⟨hcurrent, id, firstRepeated?_ids_eq_some_iff.1 hrepeated⟩
    | none =>
      have hnodup := ((firstRepeated?_eq_none_iff [] _).1 hrepeated).1
      exact .inr ⟨hcurrent, List.pairwise_map.1 hnodup⟩
  · exact .inl hcurrent

theorem session?_of_usable (h : w.Usable) {s : Session} (hs : s ∈ w.sessions) :
    w.session? s.id = some s :=
  (Order.find?_key_eq_some_iff (List.pairwise_map.2 h.ids_ne)).2 ⟨hs, rfl⟩

/-- The snapshot is rejected, and this is the message. -/
def IsRejected (verdict : Except SnapshotError Weekend) (message : String) : Prop :=
  ∃ e, verdict = .error e ∧ e.causes = [message, "Invalid input value"]

def currentMissing (w : Weekend) : String :=
  s!"Current session {w.current} does not exist, the snapshot holds {w.sessions.length} sessions!"

def idRepeated (id : Int) : String := s!"Session id {id} is used twice!"

private theorem idRepeated_inj {id other : Int} :
    idRepeated id = idRepeated other ↔ id = other := by
  unfold idRepeated
  rw [String.append_left_inj, String.append_right_inj]
  exact ⟨Text.eq_of_toString_eq, congrArg toString⟩

private theorem head?_idRepeated (id : Int) : (idRepeated id).toList.head? = some 'S' := by
  unfold idRepeated
  rw [String.append_assoc, String.toList_append, List.head?_append]
  rfl

private theorem head?_currentMissing (w : Weekend) : w.currentMissing.toList.head? = some 'C' := by
  unfold currentMissing
  simp only [String.append_assoc]
  rw [String.toList_append, List.head?_append]
  rfl

/-- The two messages differ in their first characters already. -/
private theorem idRepeated_ne_currentMissing (id : Int) : idRepeated id ≠ w.currentMissing := by
  intro h
  have hhead := head?_idRepeated id
  rw [h, head?_currentMissing] at hhead
  cases hhead

/-- What becomes of a decoded weekend: one of three things, each in its own case. -/
structure IsVerdict (w : Weekend) (verdict : Except SnapshotError Weekend) : Prop where
  /-- The weekend is not changed. -/
  accepted : ∀ v, verdict = .ok v ↔ v = w ∧ w.Usable
  /-- Whatever the ids are. -/
  outOfRange : IsRejected verdict w.currentMissing ↔ w.sessions.length ≤ w.current
  repeated : ∀ id, IsRejected verdict (idRepeated id) ↔
    w.current < w.sessions.length ∧ w.RepeatsFirst id
  one_of : verdict = .ok w ∨ IsRejected verdict w.currentMissing ∨
    ∃ id, IsRejected verdict (idRepeated id)
  found : ∀ v, verdict = .ok v → ∀ s ∈ v.sessions, v.session? s.id = some s

theorem isRejected_iff_of_error {verdict : Except SnapshotError Weekend} {e : SnapshotError}
    {told : String} (h : verdict = .error e) (htold : e.causes = [told, "Invalid input value"])
    (message : String) : IsRejected verdict message ↔ message = told := by
  constructor
  · rintro ⟨e', he', hmessage⟩
    obtain rfl := Except.error.inj (h.symm.trans he')
    exact (List.cons.inj (hmessage.symm.trans htold)).1
  · rintro rfl
    exact ⟨e, h, htold⟩

theorem not_isRejected_of_ok {verdict : Except SnapshotError Weekend} {v : Weekend}
    (h : verdict = .ok v) (message : String) : ¬ IsRejected verdict message := by
  rintro ⟨e, he, -⟩
  rw [h] at he
  cases he

theorem RepeatsFirst.id_eq {id other : Int} (hid : w.RepeatsFirst id)
    (hother : w.RepeatsFirst other) : id = other :=
  Option.some.inj
    ((firstRepeated?_ids_eq_some_iff.2 hid).symm.trans (firstRepeated?_ids_eq_some_iff.2 hother))

theorem Usable.not_repeatsFirst (h : w.Usable) (id : Int) : ¬ w.RepeatsFirst id := by
  intro hid
  have hrejected := check_of_repeatsFirst h.current_lt hid
  rw [check_of_usable h] at hrejected
  cases hrejected

theorem isVerdict_check (w : Weekend) : w.IsVerdict w.check := by
  have haccepted (v : Weekend) : w.check = .ok v ↔ v = w ∧ w.Usable := by
    constructor
    · intro hv
      obtain ⟨rfl, hcurrent, hnodup⟩ := check_eq_ok_iff.1 hv
      exact ⟨rfl, hcurrent, List.pairwise_map.1 hnodup⟩
    · rintro ⟨rfl, husable⟩
      exact check_of_usable husable
  have hfound (v : Weekend) (hv : w.check = .ok v) :
      ∀ s ∈ v.sessions, v.session? s.id = some s := by
    intro s hs
    obtain ⟨rfl, husable⟩ := (haccepted v).1 hv
    exact session?_of_usable husable hs
  rcases w.outOfRange_or_repeatsFirst_or_usable with hcurrent | ⟨hcurrent, id, hid⟩ | husable
  · have hrejected := isRejected_iff_of_error (check_of_outOfRange hcurrent) rfl
    have hmessage : IsRejected w.check w.currentMissing := (hrejected _).2 rfl
    refine ⟨haccepted, iff_of_true hmessage hcurrent, fun id => ?_, .inr (.inl hmessage), hfound⟩
    exact iff_of_false (fun h => idRepeated_ne_currentMissing id ((hrejected _).1 h))
      (fun h => Nat.not_le.2 h.1 hcurrent)
  · have hrejected := isRejected_iff_of_error (check_of_repeatsFirst hcurrent hid) rfl
    have hmessage : IsRejected w.check (idRepeated id) := (hrejected _).2 rfl
    refine ⟨haccepted, ?_, fun other => ?_, .inr (.inr ⟨id, hmessage⟩), hfound⟩
    · exact iff_of_false (fun h => idRepeated_ne_currentMissing id ((hrejected _).1 h).symm)
        (Nat.not_le.2 hcurrent)
    · rw [hrejected]
      constructor
      · intro h
        rw [idRepeated_inj.1 h]
        exact ⟨hcurrent, hid⟩
      · rintro ⟨-, hother⟩
        rw [hother.id_eq hid]
        rfl
  · have hrejected := not_isRejected_of_ok (check_of_usable husable)
    refine ⟨haccepted, ?_, fun id => ?_, .inl (check_of_usable husable), hfound⟩
    · exact iff_of_false (hrejected _) (Nat.not_le.2 husable.current_lt)
    · exact iff_of_false (hrejected _) (fun h => husable.not_repeatsFirst id h.2)

/-- A snapshot whose text decodes is accepted unchanged or rejected for its running session or for
its first repeated id, in this order. -/
theorem isVerdict_ofText (text : String) (w : Weekend)
    (h : Json.decodeText decode text = .ok w) : w.IsVerdict (ofText text) := by
  rw [ofText, h]
  exact w.isVerdict_check

/-- The ids 3, 1, 4, 1 and 3: the fourth session is the earliest one that repeats an id. -/
def repeatedIdsText : String :=
  "\x7b\"sessions\":[\x7b\"id\":3\x7d,\x7b\"id\":1\x7d,\x7b\"id\":4\x7d,\x7b\"id\":1\x7d," ++
  "\x7b\"id\":3\x7d],\"current_session\":2\x7d"

def repeatedIds : Weekend where
  sessions := [{ id := 3 }, { id := 1 }, { id := 4 }, { id := 1 }, { id := 3 }]
  current := 2

set_option maxRecDepth 4000 in
theorem isVerdict_ofText_sample :
    Json.decodeText decode repeatedIdsText = .ok repeatedIds ∧ repeatedIds.RepeatsFirst 1 ∧
      IsRejected (ofText repeatedIdsText) "Session id 1 is used twice!" := by
  have h : Json.decodeText decode repeatedIdsText = .ok repeatedIds := by rfl
  have hrepeats : repeatedIds.RepeatsFirst 1 :=
    ⟨[{ id := 3 }, { id := 1 }, { id := 4 }], { id := 1 }, [{ id := 3 }], rfl, rfl,
      ⟨{ id := 1 }, by simp, rfl⟩, by simp⟩
  exact ⟨h, hrepeats, ((isVerdict_ofText _ _ h).repeated 1).2 ⟨by decide, hrepeats⟩⟩

end Weekend

end RaceOverlay
