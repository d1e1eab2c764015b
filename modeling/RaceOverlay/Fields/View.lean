import RaceOverlay.Number.Fixed
import RaceOverlay.Tick.Scene
import RaceOverlay.Weekend.Ranking

/-!
# Views of a standing

A standing in its session and scene, and the rules for single texts in it: durations, numbers, lap
times and retirement.
-/
namespace RaceOverlay

structure StandingView where
  scene : Scene
  session : Session
  standing : Standing
  rounding : Rounding

namespace StandingView

/-- Lap times below this are no lap times. -/
def shortestLap : Float := 5.0

/-- A lap that runs longer than this is no lap. -/
def longestLap : Float := 3600.0

/-- The time that a car has to be out of the world before it is out of the session. -/
def retireDelay : Float := 1.0

def wording (v : StandingView) : Wording := v.scene.theme.wording

def time (v : StandingView) (seconds : Float) : String :=
  v.scene.timer seconds v.rounding.places false

def number (v : StandingView) (x : Float) : String := fixedText x v.rounding.places

/-- A text with the sign of what is behind. -/
def behind (v : StandingView) (text : String) : String := v.wording.behind ++ text

def isRace (v : StandingView) : Bool := v.session.kind == some .race

def isOut (v : StandingView) : Bool :=
  v.standing.surface == .notInWorld && v.scene.theme.showsRetired &&
    decide (retireDelay < v.scene.weekend.now - v.standing.offTrackSince)

def lapTime (v : StandingView) (seconds : Float) : String :=
  if seconds < shortestLap then v.wording.word .invalid else v.time seconds

/-- The age of the current lap; right after the line it is the lap before. A car out of the world
shows its fastest lap. -/
def currentLapTime (v : StandingView) : String :=
  let age := v.scene.weekend.now - v.standing.lapStart
  if longestLap < age then v.wording.word .invalid
  else if age < shortestLap then v.lapTime v.standing.previousLap.time
  else if v.standing.surface == .notInWorld then v.time v.standing.fastestLap
  else v.time age

/-- A speed, or a dash where there is none. -/
def lapSpeed (v : StandingView) : Option Float → String
  | some x => v.number x
  | none => "-"

/-- The lap whose sectors are shown: the current one once it has a sector behind it. -/
def sectorLap (v : StandingView) : Lap :=
  if v.standing.sector ≤ 0 then v.standing.previousLap else v.standing.currentLap

/-- A text about a sector, or nothing while the sector is not on record. -/
def sectorText (v : StandingView) (number : Nat) (text : Sector → String) : String :=
  match v.sectorLap.sector? number with
  | some s => text s
  | none => ""

end StandingView

end RaceOverlay
