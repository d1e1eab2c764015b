import RaceOverlay.Proofs.GapSigns

/-!
# Retired cars

A theme may show cars that have left the world as out. This touches nine fields and no other one: in
each of them the question whether the car is out comes before all other rules, those for leaders and
those for kinds of sessions. Live values ask it themselves in races, and elsewhere repeat a field
that asks it.
-/
namespace RaceOverlay

/-- The fields in which a car can be out. -/
def StandingField.outFields : List StandingField := [
  .gap, .interval, .intervalTime, .liveGap, .liveInterval, .classGap, .classLiveGap,
  .classInterval, .classLiveInterval]

/-- The theme with cars shown as out, or with none. -/
def Theme.reporting (t : Theme) (retired : Bool) : Theme := { t with showsRetired := retired }

/-- The car is out of the world, and left the track more than a second ago on the clock of the
running session. -/
def Weekend.HasLost (w : Weekend) (x : Standing) : Prop :=
  x.surface = .notInWorld ∧ 1.0 < w.now - x.offTrackSince

instance (w : Weekend) (x : Standing) : Decidable (w.HasLost x) :=
  inferInstanceAs (Decidable (_ ∧ _))

namespace StandingView

def reporting (v : StandingView) (retired : Bool) : StandingView :=
  { v with scene := { v.scene with theme := v.scene.theme.reporting retired } }

variable (v : StandingView)

theorem isOut_reporting (retired : Bool) :
    (v.reporting retired).isOut = (retired && decide (v.scene.weekend.HasLost v.standing)) := by
  have hout : (v.reporting retired).isOut = (v.standing.surface == .notInWorld && retired &&
      decide (1.0 < v.scene.weekend.now - v.standing.offTrackSince)) := rfl
  rw [hout, Bool.eq_iff_iff]
  simp only [Bool.and_eq_true, beq_iff_eq, decide_eq_true_eq]
  rw [and_assoc, and_left_comm]
  rfl

section Out

variable {v} (h : v.isOut = true)
include h

/-- A car that is out shows so, whether it is the reference or not. -/
theorem unlessReference_of_isOut (isReference : Bool) (text : String) :
    v.unlessReference isReference text = v.wording.word .out := if_pos h

theorem liveGap_of_isOut (seconds : Float) (isLeader : Bool) {otherwise : String}
    (hotherwise : otherwise = v.wording.word .out) :
    v.liveGap seconds isLeader otherwise = v.wording.word .out := by
  rw [liveGap, if_pos h, hotherwise]
  exact ite_self _

theorem text_of_isOut {f : StandingField} (hf : f ∈ StandingField.outFields) :
    v.text f = v.wording.word .out := by
  have hgap : v.gap = v.wording.word .out := unlessReference_of_isOut h _ _
  have hinterval : v.interval = v.wording.word .out := unlessReference_of_isOut h _ _
  have htime : v.intervalTime = v.wording.word .out := unlessReference_of_isOut h _ _
  have hclassGap : v.classGap = v.wording.word .out := unlessReference_of_isOut h _ _
  have hclassInterval : v.classInterval = v.wording.word .out := unlessReference_of_isOut h _ _
  simp only [StandingField.outFields, List.mem_cons, List.not_mem_nil, or_false] at hf
  rcases hf with rfl | rfl | rfl | rfl | rfl | rfl | rfl | rfl | rfl
  · exact hgap
  · exact hinterval
  · exact htime
  · exact liveGap_of_isOut h _ _ hgap
  · exact liveGap_of_isOut h _ _ htime
  · exact hclassGap
  · exact liveGap_of_isOut h _ _ hclassGap
  · exact hclassInterval
  · exact liveGap_of_isOut h _ _ hclassInterval

end Out

section SameOut

variable {v} {retired : Bool} (h : (v.reporting retired).isOut = v.isOut)
include h

theorem unlessReference_reporting (isReference : Bool) (text : String) :
    (v.reporting retired).unlessReference isReference text = v.unlessReference isReference text := by
  rw [unlessReference, unlessReference, h]
  rfl

theorem liveGap_reporting (seconds : Float) (isLeader : Bool) {a b : String} (hab : a = b) :
    (v.reporting retired).liveGap seconds isLeader a = v.liveGap seconds isLeader b := by
  rw [liveGap, liveGap, h, hab]
  rfl

theorem text_reporting_of_mem {f : StandingField} (hf : f ∈ StandingField.outFields) :
    (v.reporting retired).text f = v.text f := by
  have hgap : (v.reporting retired).gap = v.gap := unlessReference_reporting h _ _
  have hinterval : (v.reporting retired).interval = v.interval := unlessReference_reporting h _ _
  have htime : (v.reporting retired).intervalTime = v.intervalTime :=
    unlessReference_reporting h _ _
  have hclassGap : (v.reporting retired).classGap = v.classGap := unlessReference_reporting h _ _
  have hclassInterval : (v.reporting retired).classInterval = v.classInterval :=
    unlessReference_reporting h _ _
  simp only [StandingField.outFields, List.mem_cons, List.not_mem_nil, or_false] at hf
  rcases hf with rfl | rfl | rfl | rfl | rfl | rfl | rfl | rfl | rfl
  · exact hgap
  · exact hinterval
  · exact htime
  · exact liveGap_reporting h _ _ hgap
  · exact liveGap_reporting h _ _ htime
  · exact hclassGap
  · exact liveGap_reporting h _ _ hclassGap
  · exact hclassInterval
  · exact liveGap_reporting h _ _ hclassInterval

end SameOut

theorem text_reporting_of_not_mem (retired : Bool) {f : StandingField}
    (hf : f ∉ StandingField.outFields) : (v.reporting retired).text f = v.text f := by
  cases f with
  | gap | interval | intervalTime | liveGap | liveInterval | classGap | classLiveGap
  | classInterval | classLiveInterval => exact absurd (by decide) hf
  | _ => rfl

end StandingView

/-- Of two themes that differ only in whether they show cars as out, both show the same columns and
the same texts, but for nine fields of a car that has left the world: in these the one theme shows
the word for it, in all sessions and for all positions. -/
theorem fields_of_retired (theme : Theme) (scene : Scene) (session : Session) (standing : Standing)
    (rounding : Rounding) :
    let shown := scene.themedFields (theme.reporting true) session standing rounding
    let hidden := scene.themedFields (theme.reporting false) session standing rounding
    shown.columns = hidden.columns ∧ ∀ f : StandingField, shown.text f =
      if f ∈ StandingField.outFields ∧ scene.weekend.HasLost standing then theme.wording.word .out
      else hidden.text f := by
  refine ⟨rfl, fun f => ?_⟩
  let hidden : StandingView :=
    ⟨{ scene with theme := theme.reporting false }, session, standing, rounding⟩
  show (hidden.reporting true).text f = _
  have hshown : (hidden.reporting true).isOut = decide (scene.weekend.HasLost standing) :=
    hidden.isOut_reporting true
  by_cases hf : f ∈ StandingField.outFields
  · by_cases hlost : scene.weekend.HasLost standing
    · rw [if_pos ⟨hf, hlost⟩]
      exact StandingView.text_of_isOut (hshown.trans (decide_eq_true hlost)) hf
    · rw [if_neg fun h => hlost h.2]
      have hout : (hidden.reporting true).isOut = hidden.isOut :=
        (hshown.trans (decide_eq_false hlost)).trans (hidden.isOut_reporting false).symm
      exact StandingView.text_reporting_of_mem hout hf
  · rw [if_neg fun h => hf h.1]
    exact hidden.text_reporting_of_not_mem true hf

/-- The race of a leader who left the world two seconds ago. -/
def lostLeaderRace : Session where
  kind := some .race
  time := 90.0
  standings := [{
    driver := { car := 1 }
    position := 1
    surface := .notInWorld
    offTrackSince := 88.0 }]

def lostLeaderScene : Scene := ⟨{ sessions := [lostLeaderRace] }, {}, .empty, .standard, clockText⟩

example (leader : Standing) (h : leader ∈ lostLeaderRace.standings) :
    let shown := lostLeaderScene.themedFields (Theme.reporting {} true) lostLeaderRace leader .full
    let hidden := lostLeaderScene.themedFields (Theme.reporting {} false) lostLeaderRace leader .full
    shown.text .gap = "out" ∧ hidden.text .gap = "" := by
  obtain rfl := List.mem_singleton.1 h
  decide

end RaceOverlay
