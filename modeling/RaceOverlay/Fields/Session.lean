import RaceOverlay.Fields.LapCounter
import RaceOverlay.Number.Fixed
import RaceOverlay.Number.Units
import RaceOverlay.Number.Width
import RaceOverlay.Tick.Scene
import RaceOverlay.Token.Fields

/-!
# Session fields

The text of every field of a session and of the track. Durations always show their minutes.
-/
namespace RaceOverlay

structure SessionView where
  scene : Scene
  session : Session
  rounding : Rounding

namespace SessionView

/-- Remaining times above this are no countdown. -/
def longestCountdown : Float := 600000.0

/-- The greatest finite number of 32 bits stands for no limit, and so does all above it. -/
def unlimitedFrom : Float := 3.4028234663852886e38

def isUnlimited (seconds : Float) : Bool := !seconds.isFinite || decide (unlimitedFrom ≤ seconds)

def wording (v : SessionView) : Wording := v.scene.theme.wording

def time (v : SessionView) (seconds : Float) : String :=
  v.scene.timer seconds v.rounding.places true

def number (v : SessionView) (x : Float) : String := fixedText x v.rounding.places

def timeTotal (v : SessionView) : String :=
  if isUnlimited v.session.length then Clock.noTime else v.time v.session.length

def timeRemaining (v : SessionView) : String :=
  let seconds := v.session.timeRemaining
  if isUnlimited seconds || decide (longestCountdown < seconds) then Clock.noTime
  else v.time seconds

/-- The counter of the session, with the time that remains in the running session. -/
def lapCounter (v : SessionView) : String :=
  let remaining := match v.scene.weekend.current? with
    | some s => s.timeRemaining
    | none => v.session.timeRemaining
  v.session.lapCounter v.wording v.scene.theme.countdownFrom (v.time remaining)

def kind (v : SessionView) : String :=
  match v.session.kind with
  | some .race => v.wording.word .race
  | some .qualify => v.wording.word .qualify
  | some .practice => v.wording.word .practice
  | none => ""

def text (v : SessionView) : SessionField → String
  | .lapsTotal => toString v.session.lapsTotal
  | .lapsRemaining => toString v.session.lapsRemaining
  | .timeTotal => v.timeTotal
  | .timeRemaining => v.timeRemaining
  | .lapsCompleted => toString (max v.session.lapsComplete 0)
  | .timePassed => v.time v.session.time
  | .lapCounter => v.lapCounter
  | .trackName => v.scene.weekend.track.name
  | .trackLenMi =>
    v.number (v.scene.weekend.track.length * Units.milesPerKilometer / 1000.0)
  | .trackLenKm => v.number (v.scene.weekend.track.length / 1000.0)
  | .cautions => toString v.session.cautions
  | .cautionLaps => toString v.session.cautionLaps
  | .leadChanges => toString v.session.leadChanges
  | .sessionType => v.kind
  | .currentLap => toString (wrapped32 (v.session.lapsComplete + 1))
  | .turns => toString v.scene.weekend.track.turns
  | .city => v.scene.weekend.track.city
  | .country => v.scene.weekend.track.country
  | .altitudeM => fixedText v.scene.weekend.track.altitude 0
  | .sky => v.wording.localize v.scene.weekend.track.sky
  | .trackTempC => v.number v.scene.weekend.track.trackTemperature
  | .airTempC => v.number v.scene.weekend.track.airTemperature
  | .humidity => v.number v.scene.weekend.track.humidity
  | .fog => v.number v.scene.weekend.track.fog
  | .airPressureHg => v.number v.scene.weekend.track.airPressure
  | .windSpeedMs => v.number v.scene.weekend.track.windSpeed
  | .windDirDeg => v.number (Units.degrees v.scene.weekend.track.windDirection)
  | .altitudeFt => v.number (v.scene.weekend.track.altitude * Units.feetPerMeter)
  | .trackTempF => v.number (Units.fahrenheit v.scene.weekend.track.trackTemperature)
  | .airTempF => v.number (Units.fahrenheit v.scene.weekend.track.airTemperature)
  | .airPressureHpa =>
    v.number (v.scene.weekend.track.airPressure * Units.hectopascalsPerMmHg)
  | .windSpeedKt => v.number (v.scene.weekend.track.windSpeed * Units.knotsPerMps)
  | .windSpeedKph => v.number (v.scene.weekend.track.windSpeed * Units.kphPerMps)

def fields (v : SessionView) : Fields SessionField := ⟨v.text, []⟩

end SessionView

end RaceOverlay
