import RaceOverlay.Json.Decode
import RaceOverlay.Weekend.Ranking

/-!
# Snapshot documents

A snapshot is a weekend as JSON. All its fields have defaults.
-/
namespace RaceOverlay

namespace SessionKind

/-- The names in documents; a session may be of no kind. -/
def names : List (String × Option SessionKind) :=
  [("none", none), ("practice", some .practice), ("qualify", some .qualify), ("race", some .race)]

end SessionKind

namespace Phase

def names : List (String × Phase) := [
  ("gridding", .gridding), ("pacing", .pacing), ("racing", .racing), ("caution", .caution),
  ("checkered", .checkered), ("cooldown", .cooldown)]

end Phase

namespace Surface

def names : List (String × Surface) := [
  ("not_in_world", .notInWorld), ("off_track", .offTrack), ("in_pit_stall", .inPitStall),
  ("approaching_pits", .approachingPits), ("on_track", .onTrack)]

end Surface

namespace StandingOrder

def names : List (String × StandingOrder) := [
  ("position", .position), ("live_position", .livePosition), ("class_position", .classPosition),
  ("fastest_lap", .fastestLap), ("points", .points), ("track_position", .trackPosition)]

end StandingOrder

open Json

namespace Driver

def fieldNames : List String := [
  "name", "shortname", "initials", "license", "club", "number_plate", "irating", "car_idx",
  "user_id", "team_id", "team_name", "car_id", "car_class_name", "car_class_order"]

def decode : Decoder Driver := fun j => do
  let r ← record fieldNames j
  return {
    name := ← r.field "name" text ""
    shortName := ← r.field "shortname" text ""
    initials := ← r.field "initials" text ""
    license := ← r.field "license" text ""
    club := ← r.field "club" text ""
    plate := ← r.field "number_plate" text "0"
    irating := ← r.field "irating" signed32 0
    car := ← r.field "car_idx" signed32 (-1)
    user := ← r.field "user_id" signed32 0
    team := ← r.field "team_id" signed32 0
    teamName := ← r.field "team_name" text ""
    model := ← r.field "car_id" signed32 0
    className := ← r.field "car_class_name" text ""
    classOrder := ← r.field "car_class_order" signed32 0 }

end Driver

namespace Sector

def fieldNames : List String := ["num", "time", "speed"]

def decode : Decoder Sector := fun j => do
  let r ← record fieldNames j
  return {
    number := ← r.field "num" unsigned64 0
    time := ← r.field "time" float 0.0
    speed := ← r.field "speed" float 0.0 }

end Sector

namespace Lap

def fieldNames : List String :=
  ["lap_num", "lap_time", "position", "gap", "gap_laps", "sector_times"]

def decode : Decoder Lap := fun j => do
  let r ← record fieldNames j
  return {
    number := ← r.field "lap_num" signed32 0
    time := ← r.field "lap_time" float 0.0
    position := ← r.field "position" signed32 0
    gap := ← r.field "gap" float 0.0
    gapLaps := ← r.field "gap_laps" signed32 0
    sectors := ← r.field "sector_times" (list Sector.decode) [] }

end Lap

namespace Standing

def fieldNames : List String := [
  "driver", "position", "position_live", "fastest_lap", "previous_lap", "current_lap", "laps",
  "lap_begin", "sector", "current_track_pct", "speed", "laps_led", "class_laps_led", "pit_stops",
  "pit_stop_time", "highest_position", "lowest_position", "highest_class_position",
  "lowest_class_position", "track_surface", "off_track_since", "gap_live", "interval_live",
  "class_gap_live", "class_interval_live", "interval_to_followed_live", "distance_to_followed"]

def decode : Decoder Standing := fun j => do
  let r ← record fieldNames j
  return {
    driver := ← r.field "driver" Driver.decode {}
    position := ← r.field "position" signed32 0
    livePosition := ← r.field "position_live" signed32 0
    fastestLap := ← r.field "fastest_lap" float 0.0
    previousLap := ← r.field "previous_lap" Lap.decode {}
    currentLap := ← r.field "current_lap" Lap.decode {}
    laps := ← r.field "laps" (list Lap.decode) []
    lapStart := ← r.field "lap_begin" float 0.0
    sector := ← r.field "sector" signed32 0
    progress := ← r.field "current_track_pct" float 0.0
    speed := ← r.field "speed" float 0.0
    lapsLed := ← r.field "laps_led" signed32 0
    classLapsLed := ← r.field "class_laps_led" signed32 0
    pitStops := ← r.field "pit_stops" signed32 0
    pitTime := ← r.field "pit_stop_time" float 0.0
    highestPosition := ← r.field "highest_position" signed32 0
    lowestPosition := ← r.field "lowest_position" signed32 0
    highestClassPosition := ← r.field "highest_class_position" signed32 0
    lowestClassPosition := ← r.field "lowest_class_position" signed32 0
    surface := ← r.field "track_surface" (choice Surface.names) .onTrack
    offTrackSince := ← r.field "off_track_since" float 0.0
    liveGap := ← r.field "gap_live" float 0.0
    liveInterval := ← r.field "interval_live" float 0.0
    classLiveGap := ← r.field "class_gap_live" float 0.0
    classLiveInterval := ← r.field "class_interval_live" float 0.0
    intervalToFollowed := ← r.field "interval_to_followed_live" float 0.0
    distanceToFollowed := ← r.field "distance_to_followed" float 0.0 }

end Standing

namespace Track

def fieldNames : List String := [
  "name", "length", "turns", "city", "country", "altitude", "sky", "track_temperature",
  "air_temperature", "humidity", "fog", "air_pressure", "wind_speed", "wind_direction"]

def decode : Decoder Track := fun j => do
  let r ← record fieldNames j
  return {
    name := ← r.field "name" text ""
    length := ← r.field "length" float 0.0
    turns := ← r.field "turns" signed32 0
    city := ← r.field "city" text ""
    country := ← r.field "country" text ""
    altitude := ← r.field "altitude" float 0.0
    sky := ← r.field "sky" text ""
    trackTemperature := ← r.field "track_temperature" float 0.0
    airTemperature := ← r.field "air_temperature" float 0.0
    humidity := ← r.field "humidity" float 0.0
    fog := ← r.field "fog" float 0.0
    airPressure := ← r.field "air_pressure" float 0.0
    windSpeed := ← r.field "wind_speed" float 0.0
    windDirection := ← r.field "wind_direction" float 0.0 }

end Track

namespace Session

def fieldNames : List String := [
  "id", "session_type", "state", "laps_total", "laps_remaining", "laps_complete",
  "session_length", "time_remaining", "time", "cautions", "caution_laps", "lead_changes",
  "fastest_lap", "standings"]

def decode : Decoder Session := fun j => do
  let r ← record fieldNames j
  return {
    id := ← r.field "id" signed32 0
    kind := ← r.field "session_type" (choice SessionKind.names) none
    phase := ← r.field "state" (choice Phase.names) .racing
    lapsTotal := ← r.field "laps_total" signed32 0
    lapsRemaining := ← r.field "laps_remaining" signed32 0
    lapsComplete := ← r.field "laps_complete" signed32 0
    length := ← r.field "session_length" float 0.0
    timeRemaining := ← r.field "time_remaining" float 0.0
    time := ← r.field "time" float 0.0
    cautions := ← r.field "cautions" signed32 0
    cautionLaps := ← r.field "caution_laps" signed32 0
    leadChanges := ← r.field "lead_changes" signed32 0
    fastestLap := ← r.field "fastest_lap" float 0.0
    standings := ← r.field "standings" (list Standing.decode) [] }

end Session

namespace Weekend

def fieldNames : List String := ["track", "sessions", "current_session", "followed_car_idx"]

def decode : Decoder Weekend := fun j => do
  let r ← record fieldNames j
  return {
    track := ← r.field "track" Track.decode {}
    sessions := ← r.field "sessions" (list Session.decode) []
    current := ← r.field "current_session" unsigned64 0
    followed := ← r.field "followed_car_idx" signed32 0 }

end Weekend

end RaceOverlay
