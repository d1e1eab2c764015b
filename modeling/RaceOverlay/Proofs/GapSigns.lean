import RaceOverlay.Fields.Standing

/-!
# Signs of gaps

A theme may swap the signs of what is ahead and of what is behind. Swapping them changes the sign in
front of the texts of gaps and nothing else: every branch of the gap rules either shows no sign, or
puts one in front of a text that does not know of it.
-/
namespace RaceOverlay

/-- One text with the one sign and with the other. -/
def Opposed (a b : String) : Prop :=
  ∃ t, a = "+" ++ t ∧ b = "-" ++ t ∨ a = "-" ++ t ∧ b = "+" ++ t

def EqualUpToSign (a b : String) : Prop := a = b ∨ Opposed a b

namespace StandingField

/-- The fields of gaps. -/
def gapFields : List StandingField := [
  .gap, .interval, .intervalTime, .liveGap, .liveInterval, .classGap, .classLiveGap,
  .classInterval, .classLiveInterval, .liveIntervalFollowed]

/-- What may become of a text where the signs are swapped. The distance to the followed car always
has a sign. -/
def AllowsSwap (f : StandingField) (a b : String) : Prop :=
  if f = .liveIntervalFollowed then Opposed a b
  else if f ∈ gapFields then EqualUpToSign a b
  else a = b

end StandingField

namespace Wording

def swapped (w : Wording) : Wording := { w with signsSwapped := !w.signsSwapped }

theorem opposed_behind (w : Wording) (t : String) :
    Opposed (w.behind ++ t) (w.swapped.behind ++ t) := by
  refine ⟨t, ?_⟩
  cases h : w.signsSwapped <;> simp [behind, swapped, h]

theorem opposed_ahead (w : Wording) (t : String) :
    Opposed (w.ahead ++ t) (w.swapped.ahead ++ t) := by
  refine ⟨t, ?_⟩
  cases h : w.signsSwapped <;> simp [ahead, swapped, h]

end Wording

/-- The theme with the other signs. -/
def Theme.swapped (t : Theme) : Theme := { t with wording := t.wording.swapped }

def ThemeSpec.swapped (spec : ThemeSpec) : ThemeSpec :=
  { spec with signsSwapped := !spec.signsSwapped }

theorem Theme.compile_swapped (spec : ThemeSpec) (scripts : List String) :
    (compile spec.swapped scripts).1 = (compile spec scripts).1.swapped := rfl

namespace StandingView

def swapped (v : StandingView) : StandingView :=
  { v with scene := { v.scene with theme := v.scene.theme.swapped } }

variable (v : StandingView)

theorem opposed_behind (t : String) : Opposed (v.behind t) (v.swapped.behind t) :=
  v.wording.opposed_behind t

/-- The rules before a gap show no sign. -/
theorem unlessReference_swapped (isReference : Bool) {a b : String} (h : EqualUpToSign a b) :
    EqualUpToSign (v.unlessReference isReference a) (v.swapped.unlessReference isReference b) := by
  have hout : v.swapped.isOut = v.isOut := rfl
  unfold unlessReference
  rw [hout]
  cases v.isOut with
  | true => exact .inl rfl
  | false =>
    cases isReference with
    | true => exact .inl rfl
    | false => exact h

theorem lapDeficit_swapped (best : Float) :
    EqualUpToSign (v.lapDeficit best) (v.swapped.lapDeficit best) := by
  have hlap : v.swapped.standing = v.standing := rfl
  unfold lapDeficit
  rw [hlap]
  split
  · exact .inl rfl
  · exact .inr (v.opposed_behind _)

theorem opposed_raceGap (leader : Standing) :
    Opposed (v.raceGap leader) (v.swapped.raceGap leader) := by
  have hlap (s : Standing) : v.swapped.countedLap s = v.countedLap s := rfl
  have hstanding : v.swapped.standing = v.standing := rfl
  simp only [raceGap, hlap, hstanding]
  split
  · exact v.opposed_behind _
  · exact v.opposed_behind _

theorem gapText_swapped (leader : Option Standing) (isLeader : Bool) (best : Float) :
    EqualUpToSign (v.gapText leader isLeader best) (v.swapped.gapText leader isLeader best) := by
  have hrace : v.swapped.isRace = v.isRace := rfl
  refine v.unlessReference_swapped isLeader ?_
  rw [hrace]
  cases v.isRace with
  | false => exact v.lapDeficit_swapped best
  | true =>
    cases leader with
    | none => exact .inl rfl
    | some l => exact .inr (v.opposed_raceGap l)

theorem opposed_lapInterval (ahead : Standing) :
    Opposed (v.lapInterval ahead) (v.swapped.lapInterval ahead) := v.opposed_behind _

theorem opposed_raceInterval (ahead : Standing) :
    Opposed (v.raceInterval ahead) (v.swapped.raceInterval ahead) := by
  have hstanding : v.swapped.standing = v.standing := rfl
  simp only [raceInterval, hstanding]
  split
  · exact v.opposed_behind _
  · exact v.opposed_lapInterval ahead

theorem intervalText_swapped (ahead : Option Standing) (isLeader : Bool) :
    EqualUpToSign (v.intervalText ahead isLeader) (v.swapped.intervalText ahead isLeader) := by
  have hrace : v.swapped.isRace = v.isRace := rfl
  refine v.unlessReference_swapped isLeader ?_
  cases ahead with
  | none => exact .inl rfl
  | some a =>
    dsimp only
    rw [hrace]
    cases v.isRace with
    | false => exact v.lapDeficit_swapped a.fastestLap
    | true => exact .inr (v.opposed_raceInterval a)

theorem intervalTimeText_swapped (ahead : Option Standing) (isLeader : Bool) :
    EqualUpToSign (v.intervalTimeText ahead isLeader)
      (v.swapped.intervalTimeText ahead isLeader) := by
  refine v.unlessReference_swapped isLeader ?_
  cases ahead with
  | none => exact .inl rfl
  | some a => exact .inr (v.opposed_lapInterval a)

/-- A live value that stands in for another one has the sign of that one. -/
theorem liveGap_swapped (seconds : Float) (isLeader : Bool) {a b : String}
    (h : EqualUpToSign a b) :
    EqualUpToSign (v.liveGap seconds isLeader a) (v.swapped.liveGap seconds isLeader b) := by
  have hrace : v.swapped.isRace = v.isRace := rfl
  have hout : v.swapped.isOut = v.isOut := rfl
  unfold liveGap
  rw [hrace, hout]
  cases v.isRace with
  | false => exact h
  | true =>
    cases v.isOut with
    | true => exact .inl rfl
    | false =>
      cases isLeader with
      | true => exact .inl rfl
      | false => exact .inr (v.opposed_behind _)

theorem opposed_intervalToFollowed :
    Opposed v.intervalToFollowed v.swapped.intervalToFollowed := by
  have hstanding : v.swapped.standing = v.standing := rfl
  simp only [intervalToFollowed, hstanding]
  split
  · exact v.wording.opposed_behind _
  · exact v.wording.opposed_ahead _

/-- The lookups behind a gap do not depend on the signs. -/
theorem gap_swapped : EqualUpToSign v.gap v.swapped.gap := v.gapText_swapped _ _ _

theorem intervalTime_swapped : EqualUpToSign v.intervalTime v.swapped.intervalTime :=
  v.intervalTimeText_swapped _ _

theorem classGap_swapped : EqualUpToSign v.classGap v.swapped.classGap := v.gapText_swapped _ _ _

theorem classInterval_swapped : EqualUpToSign v.classInterval v.swapped.classInterval :=
  v.intervalText_swapped _ _

theorem text_swapped_of_not_gap {f : StandingField} (hf : f ∉ StandingField.gapFields) :
    v.text f = v.swapped.text f := by
  cases f with
  | gap | interval | intervalTime | liveGap | liveInterval | classGap | classLiveGap
  | classInterval | classLiveInterval | liveIntervalFollowed => exact absurd (by decide) hf
  | _ => rfl

theorem text_swapped_of_gap {f : StandingField} (hf : f ∈ StandingField.gapFields) :
    EqualUpToSign (v.text f) (v.swapped.text f) := by
  simp only [StandingField.gapFields, List.mem_cons, List.not_mem_nil, or_false] at hf
  rcases hf with rfl | rfl | rfl | rfl | rfl | rfl | rfl | rfl | rfl | rfl
  · exact v.gap_swapped
  · exact v.intervalText_swapped _ _
  · exact v.intervalTime_swapped
  · exact v.liveGap_swapped _ _ v.gap_swapped
  · exact v.liveGap_swapped _ _ v.intervalTime_swapped
  · exact v.classGap_swapped
  · exact v.liveGap_swapped _ _ v.classGap_swapped
  · exact v.classInterval_swapped
  · exact v.liveGap_swapped _ _ v.classInterval_swapped
  · exact .inr v.opposed_intervalToFollowed

theorem allowsSwap_text (f : StandingField) : f.AllowsSwap (v.text f) (v.swapped.text f) := by
  unfold StandingField.AllowsSwap
  split
  · rename_i hfollowed
    rw [hfollowed]
    exact v.opposed_intervalToFollowed
  · split
    · rename_i hgap
      exact v.text_swapped_of_gap hgap
    · rename_i hgap
      exact v.text_swapped_of_not_gap hgap

end StandingView

/-- The fields of a standing in a scene with a theme. -/
def Scene.themedFields (scene : Scene) (theme : Theme) (session : Session) (standing : Standing)
    (rounding : Rounding) : Fields StandingField :=
  StandingView.fields ⟨{ scene with theme }, session, standing, rounding⟩

/-- Of two themes that differ only in their signs, both show the same columns, the same texts in the
fields without gaps, and in those of gaps the same texts but for a sign in front. -/
theorem fields_of_swapped_signs (spec : ThemeSpec) (scripts : List String) (scene : Scene)
    (session : Session) (standing : Standing) (rounding : Rounding) :
    let fields := scene.themedFields (Theme.compile spec scripts).1 session standing rounding
    let others :=
      scene.themedFields (Theme.compile spec.swapped scripts).1 session standing rounding
    fields.columns = others.columns ∧
      ∀ f : StandingField, f.AllowsSwap (fields.text f) (others.text f) := by
  rw [Theme.compile_swapped]
  refine ⟨rfl, fun f => ?_⟩
  exact StandingView.allowsSwap_text
    ⟨{ scene with theme := (Theme.compile spec scripts).1 }, session, standing, rounding⟩ f

/-- A car that is one lap down. -/
def lappedCar : Standing where
  driver := { car := 2 }
  position := 2
  previousLap := { gapLaps := 1 }

def lappedView : StandingView where
  scene := ⟨{}, {}, .empty, .standard, clockText⟩
  session := {
    kind := some .race
    standings := [lappedCar, { driver := { car := 1 }, position := 1 }] }
  standing := lappedCar
  rounding := .full

example : lappedView.text .gap = "+1 lap" ∧ lappedView.swapped.text .gap = "-1 lap" := by decide

end RaceOverlay
