import RaceOverlay.Number.Width
import RaceOverlay.Text.Numeral
import RaceOverlay.Weekend.Basic
import RaceOverlay.Wording

/-!
# Lap counter

How far a session has come, in words. A session without a lap limit shows the remaining time.
-/
namespace RaceOverlay.Session

def hasLapLimit (s : Session) : Bool := 1 ≤ s.lapsTotal && s.lapsTotal != Text.maxSigned32

/-- The counter of a session with a lap limit that has started. -/
def runningCounter (s : Session) (w : Wording) (countdownFrom : Int) : String :=
  if s.lapsRemaining < 1 ∧ 0 < s.lapsComplete then w.word .finishing
  else if s.lapsRemaining = 1 then w.word .finalLap
  else if s.lapsRemaining ≤ countdownFrom then
    " ".intercalate [toString s.lapsRemaining, w.word .laps, w.word .remaining]
  else
    " ".intercalate
      [w.word .lap, toString (wrapped32 (max s.lapsComplete 0 + 1)), w.word .of,
        toString s.lapsTotal]

def lapCounter (s : Session) (w : Wording) (countdownFrom : Int) (timeRemaining : String) :
    String :=
  if s.hasLapLimit then
    match s.phase with
    | .gridding => w.word .gridding
    | .pacing => w.word .paceLap
    | _ => s.runningCounter w countdownFrom
  else if s.phase = .checkered then w.word .finishing
  else timeRemaining

end RaceOverlay.Session
