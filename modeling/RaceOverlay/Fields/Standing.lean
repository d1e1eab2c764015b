import RaceOverlay.Fields.Gap
import RaceOverlay.Number.Ordinal
import RaceOverlay.Number.Units
import RaceOverlay.Number.Width
import RaceOverlay.Token.Fields

/-!
# Standing fields

The text of every field of a standing, and the columns of its driver.
-/
namespace RaceOverlay

/-- A number of places with an explicit sign where places were gained. -/
def gainText (gain : Int) : String := if 0 < gain then "+" ++ toString gain else toString gain

namespace StandingView

/-- The positions of the car in the first qualifying session, overall and in its class. -/
def startPositions? (v : StandingView) : Option (Int × Int) := do
  let qualify ← v.scene.weekend.sessionOfKind? .qualify
  let entry ← qualify.standing? v.standing.driver.car
  return (entry.position, qualify.classPosition v.standing.driver)

/-- A text about the start positions, or nothing if there are none. -/
def startText (v : StandingView) (text : Int × Int → String) : String :=
  match v.startPositions? with
  | some positions => text positions
  | none => ""

/-- The points of the driver, and the championship rank. A driver without points is behind all
others. -/
def championship (v : StandingView) : Int × Nat :=
  let external := v.scene.external
  let user := v.standing.driver.user
  let last := external.rankedCount + 1
  match external.points? user with
  | some points => (points, (external.rank? user).getD last)
  | none => (0, last)

def text (v : StandingView) : StandingField → String
  | .fullName => v.standing.driver.name
  | .shortName => v.standing.driver.shortName
  | .initials => v.standing.driver.initials
  | .license => v.standing.driver.license
  | .club => v.standing.driver.club
  | .car => v.scene.theme.carName v.standing.driver.model
  | .carClass => v.scene.theme.carClass v.standing.driver.model v.standing.driver.className
  | .carNumber => v.standing.driver.plate
  | .fastLap => v.lapTime v.standing.fastestLap
  | .prevLap => v.lapTime v.standing.previousLap.time
  | .curLap => v.currentLapTime
  | .lapNum => toString v.standing.currentLap.number
  | .speedFastMph => v.lapSpeed (Units.lapMph? v.scene.weekend.track.length v.standing.fastestLap)
  | .speedPrevMph =>
    v.lapSpeed (Units.lapMph? v.scene.weekend.track.length v.standing.previousLap.time)
  | .speedFastKph => v.lapSpeed (Units.lapKph? v.scene.weekend.track.length v.standing.fastestLap)
  | .speedPrevKph =>
    v.lapSpeed (Units.lapKph? v.scene.weekend.track.length v.standing.previousLap.time)
  | .position => toString v.standing.position
  | .positionOrd => ordinal v.standing.position
  | .gap => v.gap
  | .lapsLed => toString v.standing.lapsLed
  | .driverId => toString v.standing.driver.user
  | .interval => v.interval
  | .intervalTime => v.intervalTime
  | .liveGap => v.liveGap v.standing.liveGap v.isLeader v.gap
  | .liveInterval => v.liveGap v.standing.liveInterval v.isLeader v.intervalTime
  | .liveSpeedKph => v.number (v.standing.speed * Units.kphPerMps)
  | .liveSpeedMph => v.number (v.standing.speed * Units.mphPerMps)
  | .sector1 => v.sectorText 0 fun s => v.time s.time
  | .sector2 => v.sectorText 1 fun s => v.time s.time
  | .sector3 => v.sectorText 2 fun s => v.time s.time
  | .pitStops => toString v.standing.pitStops
  | .pitStopTime => v.time v.standing.pitTime
  | .sector1SpeedKph => v.sectorText 0 fun s => v.number (s.speed * Units.kphPerMps)
  | .sector2SpeedKph => v.sectorText 1 fun s => v.number (s.speed * Units.kphPerMps)
  | .sector3SpeedKph => v.sectorText 2 fun s => v.number (s.speed * Units.kphPerMps)
  | .sector1SpeedMph => v.sectorText 0 fun s => v.number (s.speed * Units.mphPerMps)
  | .sector2SpeedMph => v.sectorText 1 fun s => v.number (s.speed * Units.mphPerMps)
  | .sector3SpeedMph => v.sectorText 2 fun s => v.number (s.speed * Units.mphPerMps)
  | .positionGain => v.startText fun start => gainText (wrapped32 (start.1 - v.standing.position))
  | .classPosition => toString v.classPosition
  | .classPositionOrd => ordinal v.classPosition
  | .classPositionGain => v.startText fun start => gainText (start.2 - v.classPosition)
  | .classGap => v.classGap
  | .classLiveGap => v.liveGap v.standing.classLiveGap v.isClassLeader v.classGap
  | .classInterval => v.classInterval
  | .classLiveInterval =>
    v.liveGap v.standing.classLiveInterval v.isClassLeader v.classInterval
  | .classLapsLed => toString v.standing.classLapsLed
  | .startPosition => v.startText fun start => toString start.1
  | .classStartPosition => v.startText fun start => toString start.2
  | .classStartPositionOrd => v.startText fun start => ordinal start.2
  | .startPositionOrd => v.startText fun start => ordinal start.1
  | .highestPosition => toString v.standing.highestPosition
  | .highestPositionOrd => ordinal v.standing.highestPosition
  | .lowestPosition => toString v.standing.lowestPosition
  | .lowestPositionOrd => ordinal v.standing.lowestPosition
  | .classHighestPosition => toString v.standing.highestClassPosition
  | .classHighestPositionOrd => ordinal v.standing.highestClassPosition
  | .classLowestPosition => toString v.standing.lowestClassPosition
  | .classLowestPositionOrd => ordinal v.standing.lowestClassPosition
  | .points => toString v.championship.1
  | .pointsPos => toString v.championship.2
  | .pointsPosOrd => ordinal (Int.ofNat v.championship.2)
  | .livePosition => toString v.standing.livePosition
  | .livePositionOrd => ordinal v.standing.livePosition
  | .classLivePosition => toString (v.session.classLivePosition v.standing.driver)
  | .classLivePositionOrd => ordinal (v.session.classLivePosition v.standing.driver)
  | .irating => toString v.standing.driver.irating
  | .liveIntervalFollowed => v.intervalToFollowed
  | .inPit => if v.standing.surface == .inPitStall then "1" else "0"
  | .teamId => toString v.standing.driver.team
  | .teamName => v.standing.driver.teamName

def fields (v : StandingView) : Fields StandingField :=
  ⟨v.text, v.scene.external.driverColumns v.standing.driver.user⟩

end StandingView

end RaceOverlay
