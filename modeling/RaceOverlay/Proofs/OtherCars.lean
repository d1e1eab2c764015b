import RaceOverlay.Proofs.ListingOrder

/-!
# What a car's fields read of other cars

The rules reach other cars through the leaders, the cars ahead, the class ranks and the entry in
qualifying. Of these cars they read who has which index, class and position, and what gaps are taken
from. All else can be masked in every session: each lookup finds the masked car where it found the
car, and the texts are the same. Names, licences, speeds, sectors and lap times of other cars are
among what is masked.
-/
namespace RaceOverlay

/-- The lap without what no other car's gap is taken from. -/
def Lap.masked (lap : Lap) : Lap where
  number := lap.number
  gap := lap.gap
  gapLaps := lap.gapLaps

/-- The standing without what no other car's fields read. -/
def Standing.masked (x : Standing) : Standing where
  driver := { car := x.driver.car, className := x.driver.className }
  position := x.position
  livePosition := x.livePosition
  fastestLap := x.fastestLap
  previousLap := x.previousLap.masked
  laps := x.laps.map Lap.masked
  progress := x.progress

def Session.masked (s : Session) : Session :=
  { s with standings := s.standings.map Standing.masked }

def Weekend.masked (w : Weekend) : Weekend := { w with sessions := w.sessions.map Session.masked }

theorem Standing.lapNumbered_masked (x : Standing) (number : Int) :
    x.masked.lapNumbered number = (x.lapNumbered number).masked := by
  have hfind : (x.laps.map Lap.masked).find? (fun lap => lap.number == number) =
      (x.laps.find? fun lap => lap.number == number).map Lap.masked := List.find?_map ..
  unfold lapNumbered masked
  rw [hfind]
  cases x.laps.find? fun lap => lap.number == number with
  | none => rfl
  | some lap => rfl

namespace Session

variable (s : Session)

/-- Masking moves no car to another place. -/
theorem ordered_masked (external : External) :
    s.masked.ordered .position external = (s.ordered .position external).map Standing.masked :=
  (Order.map_stableSort (fun _ _ => rfl) s.standings).symm

theorem filter_isOfClass_masked (className : Option String) (xs : List Standing) :
    (xs.map Standing.masked).filter (isOfClass className) =
      (xs.filter (isOfClass className)).map Standing.masked := by
  have hclass : isOfClass className ∘ Standing.masked = isOfClass className := by
    cases className <;> rfl
  rw [List.filter_map, hclass]

theorem atRank?_masked (rank : Int) (className : Option String) (external : External) :
    s.masked.atRank? rank .position className external =
      (s.atRank? rank .position className external).map Standing.masked := by
  unfold atRank?
  split
  · rfl
  · rw [ordered_masked, filter_isOfClass_masked, List.getElem?_map]

theorem classLeader?_masked (className : String) :
    s.masked.classLeader? className = (s.classLeader? className).map Standing.masked := by
  rw [classLeader?_eq_atRank? _ _ .empty, classLeader?_eq_atRank? _ _ .empty, atRank?_masked]

theorem standing?_masked (car : Int) :
    s.masked.standing? car = (s.standing? car).map Standing.masked := List.find?_map ..

variable {position : Standing → Int} (hposition : ∀ x : Standing, position x.masked = position x)
include hposition

theorem classOrdered_masked (className : String) :
    s.masked.classOrdered className position =
      (s.classOrdered className position).map Standing.masked := by
  have hahead (a b : Standing) :
      ahead position a.masked b.masked = ahead position a b := by
    rw [ahead, ahead, hposition, hposition]
  have hclass := filter_isOfClass_masked (some className) s.standings
  exact (congrArg (Order.stableSort (ahead position)) hclass).trans
    (Order.map_stableSort hahead _).symm

theorem classRank_masked (driver : Driver) :
    s.masked.classRank driver position = s.classRank driver position := by
  rw [classRank, classOrdered_masked s hposition, List.findIdx?_map]
  rfl

omit hposition in
theorem classPosition_masked (driver : Driver) :
    s.masked.classPosition driver = s.classPosition driver :=
  s.classRank_masked (fun _ => rfl) driver

omit hposition in
theorem classLivePosition_masked (driver : Driver) :
    s.masked.classLivePosition driver = s.classLivePosition driver :=
  s.classRank_masked (fun _ => rfl) driver

end Session

namespace Weekend

variable (w : Weekend)

theorem now_masked : w.masked.now = w.now := by
  have hcurrent : w.masked.current? = w.current?.map Session.masked := List.getElem?_map ..
  rw [now, now, hcurrent]
  cases w.current? <;> rfl

theorem sessionOfKind?_masked (kind : SessionKind) :
    w.masked.sessionOfKind? kind = (w.sessionOfKind? kind).map Session.masked := List.find?_map ..

end Weekend

namespace StandingView

variable (v : StandingView)

/-- The same standing among masked ones. -/
def masked : StandingView :=
  { v with scene := v.scene.showing v.scene.weekend.masked, session := v.session.masked }

theorem isOut_masked : v.masked.isOut = v.isOut := by
  have hnow : v.masked.scene.weekend.now = v.scene.weekend.now := v.scene.weekend.now_masked
  rw [isOut, isOut, hnow]
  rfl

theorem currentLapTime_masked : v.masked.currentLapTime = v.currentLapTime := by
  have hnow : v.masked.scene.weekend.now = v.scene.weekend.now := v.scene.weekend.now_masked
  rw [currentLapTime, currentLapTime, hnow]
  rfl

theorem unlessReference_masked (isReference : Bool) (text : String) :
    v.masked.unlessReference isReference text = v.unlessReference isReference text := by
  rw [unlessReference, unlessReference, isOut_masked]
  rfl

theorem liveGap_masked (seconds : Float) (isLeader : Bool) (otherwise : String) :
    v.masked.liveGap seconds isLeader otherwise = v.liveGap seconds isLeader otherwise := by
  rw [liveGap, liveGap, isOut_masked]
  rfl

/-- The lap that counts is chosen by what the mask leaves. -/
theorem countedLap_masked (x : Standing) :
    v.masked.countedLap x.masked = (v.countedLap x).masked := by
  have hlap : x.masked.lapNumbered v.masked.session.lapsComplete =
      (x.lapNumbered v.session.lapsComplete).masked := x.lapNumbered_masked _
  rw [countedLap, countedLap, hlap]
  exact (apply_ite Lap.masked _ _ _).symm

theorem raceGap_masked (leader : Standing) :
    v.masked.raceGap leader.masked = v.raceGap leader := by
  rw [raceGap, countedLap_masked]
  rfl

theorem gapText_masked (leader : Option Standing) (isLeader : Bool) (best : Float) :
    v.masked.gapText (leader.map Standing.masked) isLeader best =
      v.gapText leader isLeader best := by
  unfold gapText
  rw [unlessReference_masked]
  cases leader with
  | none => rfl
  | some l =>
    have hgap : v.masked.raceGap l.masked = v.raceGap l := v.raceGap_masked l
    simp only [Option.map_some, hgap]
    rfl

/-- An interval is taken from the gap, the progress and the fastest lap of the car ahead. -/
theorem intervalText_masked (car : Option Standing) (isLeader : Bool) :
    v.masked.intervalText (car.map Standing.masked) isLeader = v.intervalText car isLeader := by
  unfold intervalText
  rw [unlessReference_masked]
  cases car with
  | none => rfl
  | some a => rfl

theorem intervalTimeText_masked (car : Option Standing) (isLeader : Bool) :
    v.masked.intervalTimeText (car.map Standing.masked) isLeader =
      v.intervalTimeText car isLeader := by
  unfold intervalTimeText
  rw [unlessReference_masked]
  cases car with
  | none => rfl
  | some a => rfl

theorem aheadOf_masked (rank : Int) (className : Option String) :
    v.masked.aheadOf rank className = (v.aheadOf rank className).map Standing.masked := by
  unfold aheadOf
  split
  · exact v.session.atRank?_masked _ _ _
  · rfl

theorem classPosition_masked : v.masked.classPosition = v.classPosition :=
  v.session.classPosition_masked _

theorem isClassLeader_masked : v.masked.isClassLeader = v.isClassLeader := by
  rw [isClassLeader, isClassLeader, classPosition_masked]

theorem gap_masked : v.masked.gap = v.gap := by
  have hleader : v.masked.session.atRank? 1 .position none v.masked.scene.external =
      (v.session.atRank? 1 .position none v.scene.external).map Standing.masked :=
    v.session.atRank?_masked _ _ _
  rw [gap, hleader, gapText_masked]
  rfl

theorem interval_masked : v.masked.interval = v.interval := by
  rw [interval, aheadOf_masked, intervalText_masked]
  rfl

theorem intervalTime_masked : v.masked.intervalTime = v.intervalTime := by
  rw [intervalTime, aheadOf_masked, intervalTimeText_masked]
  rfl

theorem classGap_masked : v.masked.classGap = v.classGap := by
  have hleader : v.masked.session.classLeader? v.masked.standing.driver.className =
      (v.session.classLeader? v.standing.driver.className).map Standing.masked :=
    v.session.classLeader?_masked _
  have hbest (x : Option Standing) :
      (x.map Standing.masked).map (·.fastestLap) = x.map (·.fastestLap) := Option.map_map ..
  rw [classGap, hleader, gapText_masked, hbest, isClassLeader_masked]
  rfl

theorem classInterval_masked : v.masked.classInterval = v.classInterval := by
  rw [classInterval, aheadOf_masked, intervalText_masked, isClassLeader_masked,
    classPosition_masked]
  rfl

/-- The entry in qualifying gives its position, and its class the ranks. -/
theorem startPositions?_masked : v.masked.startPositions? = v.startPositions? := by
  have hqualify : v.masked.scene.weekend.sessionOfKind? .qualify =
      (v.scene.weekend.sessionOfKind? .qualify).map Session.masked :=
    v.scene.weekend.sessionOfKind?_masked _
  rw [startPositions?, startPositions?, hqualify]
  cases v.scene.weekend.sessionOfKind? .qualify with
  | none => rfl
  | some s =>
    have hstanding : v.masked.standing = v.standing := rfl
    simp only [Option.map_some, Option.bind_eq_bind, Option.bind_some, s.standing?_masked,
      s.classPosition_masked, hstanding]
    cases s.standing? v.standing.driver.car with
    | none => rfl
    | some entry => rfl

theorem startText_masked (text : Int × Int → String) :
    v.masked.startText text = v.startText text := by
  rw [startText, startText, startPositions?_masked]

theorem text_masked (f : StandingField) : v.masked.text f = v.text f := by
  have hlive := v.session.classLivePosition_masked v.standing.driver
  -- The other fields read the standing alone, or the track.
  cases f with
  | curLap => exact v.currentLapTime_masked
  | gap => exact v.gap_masked
  | interval => exact v.interval_masked
  | intervalTime => exact v.intervalTime_masked
  | classGap => exact v.classGap_masked
  | classInterval => exact v.classInterval_masked
  | liveGap =>
    rw [text, liveGap_masked, gap_masked]
    rfl
  | liveInterval =>
    rw [text, liveGap_masked, intervalTime_masked]
    rfl
  | classLiveGap =>
    rw [text, liveGap_masked, classGap_masked, isClassLeader_masked]
    rfl
  | classLiveInterval =>
    rw [text, liveGap_masked, classInterval_masked, isClassLeader_masked]
    rfl
  | classPosition => exact congrArg toString v.classPosition_masked
  | classPositionOrd => exact congrArg ordinal v.classPosition_masked
  | classLivePosition => exact congrArg toString hlive
  | classLivePositionOrd => exact congrArg ordinal hlive
  | classPositionGain =>
    rw [text, startText_masked, classPosition_masked]
    rfl
  | positionGain | startPosition | startPositionOrd | classStartPosition
  | classStartPositionOrd => exact v.startText_masked _
  | _ => rfl

theorem fields_masked : v.masked.fields = v.fields :=
  congrArg (Fields.mk · (v.scene.external.driverColumns v.standing.driver.user))
    (funext v.text_masked)

/-- A standing has the same texts and columns in two weekends that differ, in all sessions, only in
what the mask takes from other standings. -/
theorem fields_eq_of_masked_eq (scene : Scene) (w u : Weekend) (s t : Session) (x : Standing)
    (rounding : Rounding) (hweekend : w.masked = u.masked) (hsession : s.masked = t.masked) :
    fields ⟨scene.showing w, s, x, rounding⟩ = fields ⟨scene.showing u, t, x, rounding⟩ := by
  rw [← fields_masked ⟨scene.showing w, s, x, rounding⟩,
    ← fields_masked ⟨scene.showing u, t, x, rounding⟩]
  have hscene : (scene.showing w).showing w.masked = (scene.showing u).showing u.masked :=
    congrArg scene.showing hweekend
  exact congrArg₂ (fun scene session => fields ⟨scene, session, x, rounding⟩) hscene hsession

def followingCar : Standing where
  driver := { name := "B. Long", car := 7, className := "GT3" }
  position := 2
  previousLap := { gap := 2.5, gapLaps := 1 }

def raceBehind (leader : Standing) : Session where
  id := 1
  kind := some .race
  standings := [leader, followingCar]

def weekendBehind (leader : Standing) : Weekend where
  sessions := [{ kind := some .qualify, standings := [leader] }, raceBehind leader]
  current := 1

def leadingCar : Standing where
  driver := { name := "J. Doe", license := "A 3.45", car := 5, className := "GT3" }
  position := 1
  previousLap := { time := 91.5, gap := 0.5 }
  speed := 62.0

/-- Another driver in the leading car, who has stopped at the pits. -/
def stoppedCar : Standing where
  driver := { name := "A. Smith", license := "B 2.10", car := 5, user := 9, className := "GT3" }
  position := 1
  previousLap := { time := 93.25, gap := 0.5, sectors := [{ time := 31.0 }] }
  pitStops := 1
  surface := .inPitStall
  classLiveGap := 1.0

def bareScene : Scene := ⟨{}, {}, .empty, .standard, clockText⟩

theorem fields_eq_of_masked_eq_sample :
    (weekendBehind leadingCar).masked = (weekendBehind stoppedCar).masked ∧
      (raceBehind leadingCar).masked = (raceBehind stoppedCar).masked ∧
      fields ⟨bareScene.showing (weekendBehind leadingCar), raceBehind leadingCar, followingCar,
          .full⟩ =
        fields ⟨bareScene.showing (weekendBehind stoppedCar), raceBehind stoppedCar, followingCar,
          .full⟩ := by
  -- Evaluated field by field: the fields that differ must not be compared.
  have hcar : leadingCar.masked = stoppedCar.masked := by
    simp only [Standing.masked, Lap.masked, leadingCar, stoppedCar, List.map_nil]
  have hsession : (raceBehind leadingCar).masked = (raceBehind stoppedCar).masked := by
    simp only [Session.masked, raceBehind, List.map_cons, hcar]
  have hweekend : (weekendBehind leadingCar).masked = (weekendBehind stoppedCar).masked := by
    simp only [Weekend.masked, weekendBehind, Session.masked, raceBehind, List.map_cons, hcar]
  exact ⟨hweekend, hsession,
    fields_eq_of_masked_eq bareScene (weekendBehind leadingCar) (weekendBehind stoppedCar)
      (raceBehind leadingCar) (raceBehind stoppedCar) followingCar .full hweekend hsession⟩

example : text ⟨bareScene.showing (weekendBehind leadingCar), raceBehind leadingCar, followingCar,
    .full⟩ .gap = "+1 lap" := by decide

end StandingView

end RaceOverlay
