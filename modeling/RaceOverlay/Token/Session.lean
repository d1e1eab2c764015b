import RaceOverlay.Token.Domain

/-!
# Session tokens

The fields of a session and of the track it runs on. No external columns follow them.
-/
namespace RaceOverlay

inductive SessionField where
  | lapsTotal | lapsRemaining | timeTotal | timeRemaining | lapsCompleted | timePassed
  | lapCounter | trackName | trackLenMi | trackLenKm | cautions | cautionLaps | leadChanges
  | sessionType | currentLap | turns | city | country | altitudeM | sky | trackTempC | airTempC
  | humidity | fog | airPressureHg | windSpeedMs | windDirDeg | altitudeFt | trackTempF
  | airTempF | airPressureHpa | windSpeedKt | windSpeedKph
  deriving DecidableEq

namespace SessionField

/-- In the order of the slots. -/
def all : List SessionField := [
  .lapsTotal, .lapsRemaining, .timeTotal, .timeRemaining, .lapsCompleted, .timePassed,
  .lapCounter, .trackName, .trackLenMi, .trackLenKm, .cautions, .cautionLaps, .leadChanges,
  .sessionType, .currentLap, .turns, .city, .country, .altitudeM, .sky, .trackTempC, .airTempC,
  .humidity, .fog, .airPressureHg, .windSpeedMs, .windDirDeg, .altitudeFt, .trackTempF,
  .airTempF, .airPressureHpa, .windSpeedKt, .windSpeedKph]

/-- The name by which templates call the field. -/
def name : SessionField → String
  | .lapsTotal => "lapstotal"
  | .lapsRemaining => "lapsremaining"
  | .timeTotal => "timetotal"
  | .timeRemaining => "timeremaining"
  | .lapsCompleted => "lapscompleted"
  | .timePassed => "timepassed"
  | .lapCounter => "lapcounter"
  | .trackName => "trackname"
  | .trackLenMi => "tracklen_mi"
  | .trackLenKm => "tracklen_km"
  | .cautions => "cautions"
  | .cautionLaps => "cautionlaps"
  | .leadChanges => "leadchanges"
  | .sessionType => "sessiontype"
  | .currentLap => "currentlap"
  | .turns => "turns"
  | .city => "city"
  | .country => "country"
  | .altitudeM => "altitude_m"
  | .sky => "sky"
  | .trackTempC => "tracktemp_c"
  | .airTempC => "airtemp_c"
  | .humidity => "humidity"
  | .fog => "fog"
  | .airPressureHg => "airpressure_hg"
  | .windSpeedMs => "windspeed_ms"
  | .windDirDeg => "winddir_deg"
  | .altitudeFt => "altitude_ft"
  | .trackTempF => "tracktemp_f"
  | .airTempF => "airtemp_f"
  | .airPressureHpa => "airpressure_hpa"
  | .windSpeedKt => "windspeed_kt"
  | .windSpeedKph => "windspeed_kph"

theorem mem_all (f : SessionField) : f ∈ all := by cases f <;> decide

theorem nodup_all : all.Nodup := by decide +kernel

theorem nodup_names : (all.map name).Nodup := by decide +kernel

theorem name_injective (f g : SessionField) (h : name f = name g) : f = g :=
  TokenDomain.eq_of_nodup_map nodup_names (mem_all f) (mem_all g) h

theorem name_word (f : SessionField) : isWord (name f).toList = true :=
  (by decide +kernel : ∀ f ∈ all, isWord (name f).toList = true) f (mem_all f)

instance : TokenDomain SessionField where
  all := all
  name := name
  hasColumns := false
  mem_all := mem_all
  nodup_all := nodup_all
  name_injective := name_injective
  name_word := name_word
  length_all_le := by decide

end SessionField

end RaceOverlay
