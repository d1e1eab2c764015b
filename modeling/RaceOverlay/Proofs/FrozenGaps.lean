import RaceOverlay.Proofs.ListingOrder

/-!
# Gaps after the finish

In the cooldown of a race a gap is taken from the lap on which the race ended. What the cars go on
to drive adds laps to their records and changes where they are. It changes no position, so the
leaders stay who they are; and it changes no lap that is on record, so their gaps stay what they
are. A car without a record of that lap would fall back to its previous lap, which does change.
-/
namespace RaceOverlay

namespace Standing

/-- The same car later: it may have driven on, and laps may have been added to its record. -/
def DrivenOn (x y : Standing) : Prop :=
  ∃ (previousLap currentLap : Lap) (laps : List Lap) (lapStart : Float) (sector : Int)
    (progress speed : Float),
    y = { x with
      previousLap, currentLap, laps := x.laps ++ laps, lapStart, sector, progress, speed }

def Records (x : Standing) (number : Int) : Prop := ∃ lap ∈ x.laps, lap.number = number

variable {x y : Standing}

theorem DrivenOn.driver_eq (h : x.DrivenOn y) : y.driver = x.driver := by
  obtain ⟨_, _, _, _, _, _, _, rfl⟩ := h
  rfl

theorem DrivenOn.position_eq (h : x.DrivenOn y) : y.position = x.position := by
  obtain ⟨_, _, _, _, _, _, _, rfl⟩ := h
  rfl

/-- The first lap with a number stays the first one. -/
theorem DrivenOn.lapNumbered_eq (h : x.DrivenOn y) {number : Int} (hrecord : x.Records number) :
    y.lapNumbered number = x.lapNumbered number := by
  obtain ⟨_, _, laps, _, _, _, _, rfl⟩ := h
  obtain ⟨lap, hmem, hnumber⟩ := hrecord
  have hfound : (x.laps.find? fun lap => lap.number == number).isSome :=
    List.find?_isSome.2 ⟨lap, hmem, beq_iff_eq.2 hnumber⟩
  obtain ⟨first, hfirst⟩ := Option.isSome_iff_exists.1 hfound
  unfold lapNumbered
  rw [List.find?_append, hfirst]
  rfl

end Standing

namespace Session

/-- The same session later, at the same positions and with nothing else changed. -/
def DrivenOn (s t : Session) : Prop :=
  ∃ cars, List.Forall₂ Standing.DrivenOn s.standings cars ∧ t = { s with standings := cars }

section Sorted

variable {xs ys : List Standing} (h : List.Forall₂ Standing.DrivenOn xs ys)
include h

private theorem forall₂_sorted : List.Forall₂ Standing.DrivenOn
    (Order.stableSort (ahead (·.position)) xs) (Order.stableSort (ahead (·.position)) ys) := by
  refine Order.forall₂_stableSort (fun a b c d hab hcd => ?_) h
  rw [ahead, ahead, hab.position_eq, hcd.position_eq]

private theorem forall₂_ofClass (className : Option String) : List.Forall₂ Standing.DrivenOn
    (xs.filter (isOfClass className)) (ys.filter (isOfClass className)) := by
  refine List.rel_filter (fun a b hab => ?_) h
  cases className with
  | none => exact Iff.rfl
  | some name =>
    show (a.driver.className == name) = true ↔ (b.driver.className == name) = true
    rw [hab.driver_eq]

end Sorted

namespace DrivenOn

variable {s t : Session} (h : s.DrivenOn t)
include h

theorem atRank? (rank : Int) (className : Option String) (external : External) :
    Option.Rel Standing.DrivenOn (s.atRank? rank .position className external)
      (t.atRank? rank .position className external) := by
  obtain ⟨cars, hcars, rfl⟩ := h
  unfold Session.atRank?
  split
  · exact .none
  · exact rel_getElem? (forall₂_ofClass (forall₂_sorted hcars) className) _

theorem classLeader? (className : String) :
    Option.Rel Standing.DrivenOn (s.classLeader? className) (t.classLeader? className) := by
  rw [s.classLeader?_eq_atRank? className .empty, t.classLeader?_eq_atRank? className .empty]
  exact h.atRank? 1 (some className) .empty

theorem classPosition_eq (driver : Driver) : t.classPosition driver = s.classPosition driver := by
  obtain ⟨cars, hcars, rfl⟩ := h
  have hplace : (s.classOrdered driver.className (·.position)).findIdx?
        (fun x => x.driver.car == driver.car) =
      (classOrdered { s with standings := cars } driver.className (·.position)).findIdx?
        (fun x => x.driver.car == driver.car) := by
    refine findIdx?_eq_of_rel (forall₂_sorted (forall₂_ofClass hcars _)) fun x y hxy => ?_
    rw [hxy.driver_eq]
  rw [classPosition, classPosition, classRank, classRank, hplace]

end DrivenOn

end Session

namespace Weekend

def DrivenOn (w u : Weekend) : Prop :=
  ∃ sessions, List.Forall₂ Session.DrivenOn w.sessions sessions ∧ u = { w with sessions }

/-- Driving on takes no time here: the clock is not among what changes. -/
theorem DrivenOn.now_eq {w u : Weekend} (h : w.DrivenOn u) : u.now = w.now := by
  have hrel : Option.Rel Session.DrivenOn w.current? u.current? := by
    obtain ⟨sessions, hsessions, rfl⟩ := h
    exact rel_getElem? hsessions w.current
  rw [now, now]
  generalize w.current? = a at hrel
  generalize u.current? = b at hrel
  cases hrel with
  | none => rfl
  | @some s t hst =>
    obtain ⟨cars, -, rfl⟩ := hst
    rfl

end Weekend

namespace StandingView

/-- The view of the car in a later state of its weekend. -/
def later (v : StandingView) (u : Weekend) (t : Session) (y : Standing) : StandingView :=
  { v with scene := v.scene.showing u, session := t, standing := y }

/-- A race in cooldown. The car, the leader and the leader of the class have the lap on record on
which it ended. -/
structure FinishOnRecord (v : StandingView) : Prop where
  race : v.session.kind = some .race
  cooldown : v.session.phase = .cooldown
  own : v.standing.Records v.session.lapsComplete
  leader : ∀ l, v.session.atRank? 1 .position none v.scene.external = some l →
    l.Records v.session.lapsComplete
  classLeader : ∀ l, v.session.classLeader? v.standing.driver.className = some l →
    l.Records v.session.lapsComplete

section Later

variable {v : StandingView} {u : Weekend} {t : Session} {y : Standing}

/-- In cooldown the lap is chosen by the count of the session alone. -/
theorem countedLap_of_cooldown (h : v.session.phase = .cooldown) (x : Standing) :
    v.countedLap x = x.lapNumbered v.session.lapsComplete := by
  unfold countedLap
  rw [h]
  rfl

theorem isOut_later (hweekend : v.scene.weekend.DrivenOn u) (hstanding : v.standing.DrivenOn y) :
    (v.later u t y).isOut = v.isOut := by
  have hnow : (v.later u t y).scene.weekend.now = v.scene.weekend.now := hweekend.now_eq
  rw [isOut, isOut, hnow]
  obtain ⟨_, _, _, _, _, _, _, rfl⟩ := hstanding
  rfl

theorem unlessReference_later (hweekend : v.scene.weekend.DrivenOn u)
    (hsession : v.session.DrivenOn t) (hstanding : v.standing.DrivenOn y) (isReference : Bool)
    (text : String) :
    (v.later u t y).unlessReference isReference text = v.unlessReference isReference text := by
  rw [unlessReference, unlessReference, isOut_later hweekend hstanding]
  obtain ⟨cars, -, rfl⟩ := hsession
  obtain ⟨_, _, _, _, _, _, _, rfl⟩ := hstanding
  rfl

variable (hsession : v.session.DrivenOn t)
include hsession

theorem countedLap_later (hcooldown : v.session.phase = .cooldown) {x x' : Standing}
    (hx : x.DrivenOn x') (hrecord : x.Records v.session.lapsComplete) :
    (v.later u t y).countedLap x' = v.countedLap x := by
  obtain ⟨cars, -, rfl⟩ := hsession
  have hlater : (v.later u { v.session with standings := cars } y).session.phase = .cooldown :=
    hcooldown
  rw [countedLap_of_cooldown hcooldown, countedLap_of_cooldown hlater]
  exact hx.lapNumbered_eq hrecord

theorem raceGap_later (hstanding : v.standing.DrivenOn y) (h : v.FinishOnRecord)
    {l l' : Standing} (hl : l.DrivenOn l') (hrecord : l.Records v.session.lapsComplete) :
    (v.later u t y).raceGap l' = v.raceGap l := by
  have hown : (v.later u t y).countedLap (v.later u t y).standing = v.countedLap v.standing :=
    countedLap_later hsession h.cooldown hstanding h.own
  rw [raceGap, raceGap, hown, countedLap_later hsession h.cooldown hl hrecord]
  rfl

/-- No lap time is asked for in a race. -/
theorem gapText_later (hweekend : v.scene.weekend.DrivenOn u) (hstanding : v.standing.DrivenOn y)
    (h : v.FinishOnRecord) {leader leader' : Option Standing}
    (hrel : Option.Rel Standing.DrivenOn leader leader')
    (hrecord : ∀ l, leader = some l → l.Records v.session.lapsComplete) (isLeader : Bool)
    (best best' : Float) :
    (v.later u t y).gapText leader' isLeader best' = v.gapText leader isLeader best := by
  have hrace : v.isRace = true := beq_iff_eq.2 h.race
  have hraceLater : (v.later u t y).isRace = true := by
    obtain ⟨cars, -, rfl⟩ := hsession
    exact hrace
  unfold gapText
  rw [unlessReference_later hweekend hsession hstanding, if_pos hrace, if_pos hraceLater]
  cases hrel with
  | none => rfl
  | @some l l' hl =>
    exact congrArg (v.unlessReference isLeader)
      (raceGap_later hsession hstanding h hl (hrecord l rfl))

end Later

/-- After the finish the two gaps stay as they are, whatever the cars drive. -/
theorem gaps_after_finish (v : StandingView) (h : v.FinishOnRecord) (u : Weekend) (t : Session)
    (y : Standing) (hweekend : v.scene.weekend.DrivenOn u) (hsession : v.session.DrivenOn t)
    (hstanding : v.standing.DrivenOn y) :
    (v.later u t y).text .gap = v.text .gap ∧
      (v.later u t y).text .classGap = v.text .classGap := by
  constructor
  · have hleader : (v.later u t y).isLeader = v.isLeader := by
      rw [isLeader, isLeader]
      show decide (y.position ≤ 1) = _
      rw [hstanding.position_eq]
    show (v.later u t y).gap = v.gap
    rw [gap, gap, hleader]
    exact gapText_later hsession hweekend hstanding h (hsession.atRank? 1 none v.scene.external)
      h.leader v.isLeader _ _
  · have hleader : (v.later u t y).isClassLeader = v.isClassLeader := by
      rw [isClassLeader, isClassLeader, classPosition, classPosition]
      show decide (t.classPosition y.driver ≤ 1) = _
      rw [hstanding.driver_eq, hsession.classPosition_eq]
    have hclass : Option.Rel Standing.DrivenOn
        (v.session.classLeader? v.standing.driver.className)
        ((v.later u t y).session.classLeader? (v.later u t y).standing.driver.className) := by
      show Option.Rel _ _ (t.classLeader? y.driver.className)
      rw [hstanding.driver_eq]
      exact hsession.classLeader? v.standing.driver.className
    show (v.later u t y).classGap = v.classGap
    rw [classGap, classGap, hleader]
    exact gapText_later hsession hweekend hstanding h hclass h.classLeader v.isClassLeader _ _

def winner : Standing where
  driver := { car := 5, className := "GT3" }
  position := 1
  laps := [{ number := 11 }, { number := 12 }]

def lappedCar : Standing where
  driver := { car := 7, className := "GT3" }
  position := 2
  previousLap := { number := 12, gapLaps := 1 }
  laps := [{ number := 12, gapLaps := 1 }]
  speed := 62.0

/-- The lapped car on its way to the pits, three more laps behind. -/
def lappedCarLater : Standing where
  driver := { car := 7, className := "GT3" }
  position := 2
  previousLap := { number := 13, gapLaps := 4 }
  laps := [{ number := 12, gapLaps := 1 }, { number := 13, gapLaps := 4 }]
  speed := 14.0

def finishedRace (lapped : Standing) : Session where
  kind := some .race
  phase := .cooldown
  lapsComplete := 12
  standings := [winner, lapped]

def finishView : StandingView where
  scene := ⟨{ sessions := [finishedRace lappedCar] }, {}, .empty, .standard, clockText⟩
  session := finishedRace lappedCar
  standing := lappedCar
  rounding := .full

theorem gaps_after_finish_sample :
    let u : Weekend := { sessions := [finishedRace lappedCarLater] }
    let after := finishView.later u (finishedRace lappedCarLater) lappedCarLater
    finishView.FinishOnRecord ∧ finishView.scene.weekend.DrivenOn u ∧
      finishView.session.DrivenOn (finishedRace lappedCarLater) ∧
      lappedCar.DrivenOn lappedCarLater ∧
      after.text .gap = finishView.text .gap ∧ after.text .classGap = finishView.text .classGap ∧
      finishView.text .gap = "+1 lap" := by
  have hlapped : lappedCar.DrivenOn lappedCarLater := ⟨_, _, [_], _, _, _, _, rfl⟩
  have hwinner : winner.DrivenOn winner := ⟨_, _, [], _, _, _, _, rfl⟩
  have hsession : (finishedRace lappedCar).DrivenOn (finishedRace lappedCarLater) :=
    ⟨_, .cons hwinner (.cons hlapped .nil), rfl⟩
  have hweekend : finishView.scene.weekend.DrivenOn { sessions := [finishedRace lappedCarLater] } :=
    ⟨_, .cons hsession .nil, rfl⟩
  have hrecord : winner.Records 12 := ⟨_, List.mem_cons_of_mem _ List.mem_cons_self, rfl⟩
  have hfinish : finishView.FinishOnRecord := {
    race := rfl
    cooldown := rfl
    own := ⟨_, List.mem_cons_self, rfl⟩
    leader l hl := by
      obtain rfl : winner = l := Option.some.inj hl
      exact hrecord
    classLeader l hl := by
      obtain rfl : winner = l := Option.some.inj hl
      exact hrecord }
  obtain ⟨hgap, hclassGap⟩ := gaps_after_finish finishView hfinish _ _ _ hweekend hsession hlapped
  exact ⟨hfinish, hweekend, hsession, hlapped, hgap, hclassGap, by decide⟩

end StandingView

end RaceOverlay
