import RaceOverlay.Fields.View
import RaceOverlay.Number.Width

/-!
# Gaps

What separates a car from the leader and from the car ahead. In races it is taken from completed
laps or from the distance driven, elsewhere from the fastest laps. The car that all others are
compared with shows nothing in races and its fastest lap elsewhere.
-/
namespace RaceOverlay

namespace StandingView

/-- A fastest lap up to this is not on record. -/
def noLap : Float := 1.0

/-- The lap that a gap is taken from. After the finish it is the lap on which the session ended. -/
def countedLap (v : StandingView) (s : Standing) : Lap :=
  let finished := v.session.phase == .cooldown ||
    (v.session.phase == .checkered && decide (Float.ofInt v.session.lapsComplete < s.progress))
  if finished then s.lapNumbered v.session.lapsComplete else s.previousLap

/-- What the car that others are compared with shows. -/
def referenceText (v : StandingView) : String :=
  if v.isRace then "" else v.time v.standing.fastestLap

/-- A gap of the car, unless it is out or the reference itself. -/
def unlessReference (v : StandingView) (isReference : Bool) (text : String) : String :=
  if v.isOut then v.wording.word .out
  else if isReference then v.referenceText
  else text

/-- The time by which the car's fastest lap is slower than the best one. -/
def lapDeficit (v : StandingView) (best : Float) : String :=
  if v.standing.fastestLap ≤ noLap then v.wording.word .invalid
  else v.behind (v.time (v.standing.fastestLap - best))

/-- The deficit to a leader in a race: full laps, if there are any, or else a time. -/
def raceGap (v : StandingView) (leader : Standing) : String :=
  let own := v.countedLap v.standing
  let first := v.countedLap leader
  let laps := wrapped32 (own.gapLaps - first.gapLaps)
  if 0 < laps then v.behind (v.wording.lapsText laps)
  else v.behind (v.time (own.gap - first.gap))

/-- The deficit to the leader of the session or of the class. Outside races it is the deficit to
the given lap time. -/
def gapText (v : StandingView) (leader : Option Standing) (isLeader : Bool) (best : Float) :
    String :=
  v.unlessReference isLeader <|
    if v.isRace then
      match leader with
      | some l => v.raceGap l
      | none => ""
    else v.lapDeficit best

/-- The time between two cars at the ends of their previous laps. -/
def lapInterval (v : StandingView) (ahead : Standing) : String :=
  v.behind (v.time (v.standing.previousLap.gap - ahead.previousLap.gap))

/-- The deficit to the car ahead in a race: full laps if it is more than one, or else a time. -/
def raceInterval (v : StandingView) (ahead : Standing) : String :=
  let apart := ahead.progress - v.standing.progress
  if 1.0 < apart then v.behind (v.wording.lapsText apart.floor.toInt32.toInt)
  else v.lapInterval ahead

def intervalText (v : StandingView) (ahead : Option Standing) (isLeader : Bool) : String :=
  v.unlessReference isLeader <|
    match ahead with
    | none => ""
    | some a => if v.isRace then v.raceInterval a else v.lapDeficit a.fastestLap

def intervalTimeText (v : StandingView) (ahead : Option Standing) (isLeader : Bool) : String :=
  v.unlessReference isLeader <|
    match ahead with
    | none => ""
    | some a => v.lapInterval a

/-- The car ahead of a rank in the order of positions, if the rank has one. -/
def aheadOf (v : StandingView) (rank : Int) (className : Option String) : Option Standing :=
  if 1 < rank then v.session.atRank? (rank - 1) .position className v.scene.external else none

def isLeader (v : StandingView) : Bool := decide (v.standing.position ≤ 1)

def classPosition (v : StandingView) : Int := v.session.classPosition v.standing.driver

def isClassLeader (v : StandingView) : Bool := decide (v.classPosition ≤ 1)

def gap (v : StandingView) : String :=
  v.gapText (v.session.atRank? 1 .position none v.scene.external) v.isLeader v.session.fastestLap

def interval (v : StandingView) : String :=
  v.intervalText (v.aheadOf v.standing.position none) v.isLeader

def intervalTime (v : StandingView) : String :=
  v.intervalTimeText (v.aheadOf v.standing.position none) v.isLeader

def classGap (v : StandingView) : String :=
  let leader := v.session.classLeader? v.standing.driver.className
  v.gapText leader v.isClassLeader ((leader.map (·.fastestLap)).getD 0.0)

def classInterval (v : StandingView) : String :=
  v.intervalText (v.aheadOf v.classPosition (some v.standing.driver.className)) v.isClassLeader

/-- A live value of a race; elsewhere the value it stands in for. -/
def liveGap (v : StandingView) (seconds : Float) (isLeader : Bool) (otherwise : String) : String :=
  if v.isRace then
    if v.isOut then v.wording.word .out
    else if isLeader then ""
    else v.behind (v.time seconds)
  else otherwise

/-- The live distance to the followed car, with the sign of the side it is on. -/
def intervalToFollowed (v : StandingView) : String :=
  let sign :=
    if v.standing.distanceToFollowed < 0.0 then v.wording.behind else v.wording.ahead
  sign ++ v.number v.standing.intervalToFollowed

end StandingView

end RaceOverlay
