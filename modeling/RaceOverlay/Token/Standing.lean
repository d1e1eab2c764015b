import RaceOverlay.Token.Domain

/-!
# Standing tokens

The fields of one driver's standing. External columns of the driver follow them.
-/
namespace RaceOverlay

inductive StandingField where
  | fullName | shortName | initials | license | club | car | carClass | carNumber | fastLap
  | prevLap | curLap | lapNum | speedFastMph | speedPrevMph | speedFastKph | speedPrevKph
  | position | positionOrd | gap | lapsLed | driverId | interval | intervalTime | liveGap
  | liveInterval | liveSpeedKph | liveSpeedMph | sector1 | sector2 | sector3 | pitStops
  | pitStopTime | sector1SpeedKph | sector2SpeedKph | sector3SpeedKph | sector1SpeedMph
  | sector2SpeedMph | sector3SpeedMph | positionGain | classPosition | classPositionOrd
  | classPositionGain | classGap | classLiveGap | classInterval | classLiveInterval
  | classLapsLed | startPosition | classStartPosition | classStartPositionOrd
  | startPositionOrd | highestPosition | highestPositionOrd | lowestPosition
  | lowestPositionOrd | classHighestPosition | classHighestPositionOrd | classLowestPosition
  | classLowestPositionOrd | points | pointsPos | pointsPosOrd | livePosition | livePositionOrd
  | classLivePosition | classLivePositionOrd | irating | liveIntervalFollowed | inPit | teamId
  | teamName
  deriving DecidableEq

namespace StandingField

/-- In the order of the slots. -/
def all : List StandingField := [
  .fullName, .shortName, .initials, .license, .club, .car, .carClass, .carNumber, .fastLap,
  .prevLap, .curLap, .lapNum, .speedFastMph, .speedPrevMph, .speedFastKph, .speedPrevKph,
  .position, .positionOrd, .gap, .lapsLed, .driverId, .interval, .intervalTime, .liveGap,
  .liveInterval, .liveSpeedKph, .liveSpeedMph, .sector1, .sector2, .sector3, .pitStops,
  .pitStopTime, .sector1SpeedKph, .sector2SpeedKph, .sector3SpeedKph, .sector1SpeedMph,
  .sector2SpeedMph, .sector3SpeedMph, .positionGain, .classPosition, .classPositionOrd,
  .classPositionGain, .classGap, .classLiveGap, .classInterval, .classLiveInterval,
  .classLapsLed, .startPosition, .classStartPosition, .classStartPositionOrd,
  .startPositionOrd, .highestPosition, .highestPositionOrd, .lowestPosition,
  .lowestPositionOrd, .classHighestPosition, .classHighestPositionOrd, .classLowestPosition,
  .classLowestPositionOrd, .points, .pointsPos, .pointsPosOrd, .livePosition, .livePositionOrd,
  .classLivePosition, .classLivePositionOrd, .irating, .liveIntervalFollowed, .inPit, .teamId,
  .teamName]

/-- The name by which templates call the field. -/
def name : StandingField → String
  | .fullName => "fullname"
  | .shortName => "shortname"
  | .initials => "initials"
  | .license => "license"
  | .club => "club"
  | .car => "car"
  | .carClass => "class"
  | .carNumber => "carnum"
  | .fastLap => "fastlap"
  | .prevLap => "prevlap"
  | .curLap => "curlap"
  | .lapNum => "lapnum"
  | .speedFastMph => "speedfast_mph"
  | .speedPrevMph => "speedprev_mph"
  | .speedFastKph => "speedfast_kph"
  | .speedPrevKph => "speedprev_kph"
  | .position => "position"
  | .positionOrd => "position_ord"
  | .gap => "gap"
  | .lapsLed => "lapsled"
  | .driverId => "driverid"
  | .interval => "interval"
  | .intervalTime => "interval_time"
  | .liveGap => "livegap"
  | .liveInterval => "liveinterval"
  | .liveSpeedKph => "livespeed_kph"
  | .liveSpeedMph => "livespeed_mph"
  | .sector1 => "sector1"
  | .sector2 => "sector2"
  | .sector3 => "sector3"
  | .pitStops => "pitstops"
  | .pitStopTime => "pitstoptime"
  | .sector1SpeedKph => "sector1_speed_kph"
  | .sector2SpeedKph => "sector2_speed_kph"
  | .sector3SpeedKph => "sector3_speed_kph"
  | .sector1SpeedMph => "sector1_speed_mph"
  | .sector2SpeedMph => "sector2_speed_mph"
  | .sector3SpeedMph => "sector3_speed_mph"
  | .positionGain => "positiongain"
  | .classPosition => "classposition"
  | .classPositionOrd => "classposition_ord"
  | .classPositionGain => "classpositiongain"
  | .classGap => "classgap"
  | .classLiveGap => "classlivegap"
  | .classInterval => "classinterval"
  | .classLiveInterval => "classliveinterval"
  | .classLapsLed => "classlapsled"
  | .startPosition => "startposition"
  | .classStartPosition => "classstartposition"
  | .classStartPositionOrd => "classstartposition_ord"
  | .startPositionOrd => "startposition_ord"
  | .highestPosition => "highestposition"
  | .highestPositionOrd => "highestposition_ord"
  | .lowestPosition => "lowestposition"
  | .lowestPositionOrd => "lowestposition_ord"
  | .classHighestPosition => "classhighestposition"
  | .classHighestPositionOrd => "classhighestposition_ord"
  | .classLowestPosition => "classlowestposition"
  | .classLowestPositionOrd => "classlowestposition_ord"
  | .points => "points"
  | .pointsPos => "points_pos"
  | .pointsPosOrd => "points_pos_ord"
  | .livePosition => "liveposition"
  | .livePositionOrd => "liveposition_ord"
  | .classLivePosition => "classliveposition"
  | .classLivePositionOrd => "classliveposition_ord"
  | .irating => "irating"
  | .liveIntervalFollowed => "liveintervalfollowed"
  | .inPit => "inpit"
  | .teamId => "teamid"
  | .teamName => "teamname"

theorem mem_all (f : StandingField) : f ∈ all := by cases f <;> decide

theorem nodup_all : all.Nodup := by decide +kernel

theorem nodup_names : (all.map name).Nodup := by decide +kernel

theorem name_injective (f g : StandingField) (h : name f = name g) : f = g :=
  TokenDomain.eq_of_nodup_map nodup_names (mem_all f) (mem_all g) h

theorem name_word (f : StandingField) : isWord (name f).toList = true :=
  (by decide +kernel : ∀ f ∈ all, isWord (name f).toList = true) f (mem_all f)

instance : TokenDomain StandingField where
  all := all
  name := name
  hasColumns := true
  mem_all := mem_all
  nodup_all := nodup_all
  name_injective := name_injective
  name_word := name_word
  length_all_le := by decide

end StandingField

end RaceOverlay
