/-!
# Race weekends

A weekend is a track and the sessions that run on it, with the standings of every session. Times
are in seconds, lengths in meters, speeds in meters per second. Absent data has the defaults given
here.
-/
namespace RaceOverlay

inductive SessionKind where
  | practice
  | qualify
  | race
  deriving DecidableEq

inductive Phase where
  | gridding
  | pacing
  | racing
  | caution
  | checkered
  | cooldown
  deriving DecidableEq

/-- What a car stands on. -/
inductive Surface where
  | notInWorld
  | offTrack
  | inPitStall
  | approachingPits
  | onTrack
  deriving DecidableEq

structure Driver where
  name : String := ""
  shortName : String := ""
  initials : String := ""
  license : String := ""
  club : String := ""
  /-- The number on the car, as text: leading zeros count. -/
  plate : String := "0"
  irating : Int := 0
  /-- The car in the session. Negative indices stand for no car. -/
  car : Int := -1
  /-- The id that external data is keyed by. -/
  user : Int := 0
  team : Int := 0
  teamName : String := ""
  /-- The car's model. -/
  model : Int := 0
  className : String := ""
  classOrder : Int := 0

structure Sector where
  /-- Counted from zero. -/
  number : Nat := 0
  time : Float := 0.0
  speed : Float := 0.0

structure Lap where
  number : Int := 0
  time : Float := 0.0
  position : Int := 0
  /-- The time behind the leader at the end of the lap. -/
  gap : Float := 0.0
  /-- The full laps behind the leader at the end of the lap. -/
  gapLaps : Int := 0
  sectors : List Sector := []

/-- The state of one driver in a session. Live values are taken now, all others at the last line
crossing. -/
structure Standing where
  driver : Driver := {}
  position : Int := 0
  livePosition : Int := 0
  fastestLap : Float := 0.0
  previousLap : Lap := {}
  currentLap : Lap := {}
  /-- The laps on record. -/
  laps : List Lap := []
  /-- The session time at the start of the current lap. -/
  lapStart : Float := 0.0
  sector : Int := 0
  /-- Laps driven: 12.25 is a quarter into lap 13. -/
  progress : Float := 0.0
  speed : Float := 0.0
  lapsLed : Int := 0
  classLapsLed : Int := 0
  pitStops : Int := 0
  pitTime : Float := 0.0
  highestPosition : Int := 0
  lowestPosition : Int := 0
  highestClassPosition : Int := 0
  lowestClassPosition : Int := 0
  surface : Surface := .onTrack
  /-- The session time at which the car left the track. -/
  offTrackSince : Float := 0.0
  liveGap : Float := 0.0
  liveInterval : Float := 0.0
  classLiveGap : Float := 0.0
  classLiveInterval : Float := 0.0
  intervalToFollowed : Float := 0.0
  /-- Negative behind the followed car. -/
  distanceToFollowed : Float := 0.0

structure Track where
  name : String := ""
  length : Float := 0.0
  turns : Int := 0
  city : String := ""
  country : String := ""
  altitude : Float := 0.0
  sky : String := ""
  /-- Temperatures are in degrees Celsius. -/
  trackTemperature : Float := 0.0
  airTemperature : Float := 0.0
  humidity : Float := 0.0
  fog : Float := 0.0
  /-- In millimeters of mercury. -/
  airPressure : Float := 0.0
  windSpeed : Float := 0.0
  /-- In radians. -/
  windDirection : Float := 0.0

structure Session where
  id : Int := 0
  kind : Option SessionKind := none
  phase : Phase := .racing
  /-- Less than one and the greatest 32-bit number both mean no limit. -/
  lapsTotal : Int := 0
  lapsRemaining : Int := 0
  lapsComplete : Int := 0
  length : Float := 0.0
  timeRemaining : Float := 0.0
  /-- The session clock. -/
  time : Float := 0.0
  cautions : Int := 0
  cautionLaps : Int := 0
  leadChanges : Int := 0
  fastestLap : Float := 0.0
  standings : List Standing := []

structure Weekend where
  track : Track := {}
  sessions : List Session := []
  /-- The index of the running session. -/
  current : Nat := 0
  /-- The car that the camera follows. -/
  followed : Int := 0

namespace Lap

def sector? (lap : Lap) (number : Nat) : Option Sector :=
  lap.sectors.find? fun s => s.number == number

end Lap

namespace Standing

/-- The lap on record with the number; a lap that is not on record is taken for the previous one. -/
def lapNumbered (s : Standing) (number : Int) : Lap :=
  (s.laps.find? fun lap => lap.number == number).getD s.previousLap

end Standing

namespace Session

def standing? (s : Session) (car : Int) : Option Standing :=
  s.standings.find? fun standing => standing.driver.car == car

end Session

namespace Weekend

def current? (w : Weekend) : Option Session := w.sessions[w.current]?

/-- The clock of the running session. -/
def now (w : Weekend) : Float :=
  match w.current? with
  | some s => s.time
  | none => 0.0

def session? (w : Weekend) (id : Int) : Option Session := w.sessions.find? fun s => s.id == id

/-- The first session of a kind. -/
def sessionOfKind? (w : Weekend) (kind : SessionKind) : Option Session :=
  w.sessions.find? fun s => s.kind == some kind

/-- The standing of the followed car. A car that is not in the session has an empty standing of no
car. -/
def standingOfFollowed (w : Weekend) (s : Session) : Standing := (s.standing? w.followed).getD {}

end Weekend

end RaceOverlay
