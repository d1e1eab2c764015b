import RaceOverlay.Number.Rounding
import RaceOverlay.Weekend.Document

/-!
# Theme documents

A theme as JSON: what to call things, and the templates of the labels.
-/
namespace RaceOverlay

/-- What a label shows. -/
inductive Dataset where
  /-- The standing at a rank. -/
  | standing
  /-- The standing of the followed car. -/
  | followed
  /-- The session and its track. -/
  | sessionState
  deriving DecidableEq

def Dataset.names : List (String × Dataset) :=
  [("standing", .standing), ("followed", .followed), ("session_state", .sessionState)]

structure LabelSpec where
  name : String
  template : String
  rounding : Rounding := .full
  uppercase : Bool := false
  dataset : Dataset := .standing
  /-- The kind of the session; without one it is the running session. -/
  session : Option SessionKind := none
  order : StandingOrder := .position
  /-- The number of standings before the one shown. -/
  offset : Nat := 0
  /-- Standings of other classes do not count. -/
  className : Option String := none

structure ThemeSpec where
  name : String
  signsSwapped : Bool := false
  showsRetired : Bool := false
  countdownFrom : Int := 3
  pointsColumn : Nat := 0
  /-- In the tables the first entry of a key is the one that counts. -/
  words : List (String × String) := []
  cars : List (Int × String) := []
  carClasses : List (Int × String) := []
  labels : List LabelSpec := []

open Json

namespace LabelSpec

def fieldNames : List String :=
  ["name", "text", "rounding", "uppercase", "dataset", "session", "order", "offset", "class"]

def decode : Decoder LabelSpec := fun j => do
  let r ← record fieldNames j
  return {
    name := ← r.required "name" text
    template := ← r.required "text" text
    rounding := Rounding.nearest (← r.field "rounding" signed32 Rounding.full.places)
    uppercase := ← r.field "uppercase" flag false
    dataset := ← r.field "dataset" (choice Dataset.names) .standing
    session := ← r.field "session" (choice SessionKind.names) none
    order := ← r.field "order" (choice StandingOrder.names) .position
    offset := ← r.field "offset" unsigned64 0
    className := ← r.field "class" (nullable text) none }

end LabelSpec

namespace ThemeSpec

def fieldNames : List String := [
  "name", "switch_sign", "allow_retire", "lap_countdown_from", "points_col", "translation", "cars",
  "car_classes", "labels"]

def decode : Decoder ThemeSpec := fun j => do
  let r ← record fieldNames j
  return {
    name := ← r.required "name" text
    signsSwapped := ← r.field "switch_sign" flag false
    showsRetired := ← r.field "allow_retire" flag false
    countdownFrom := ← r.field "lap_countdown_from" signed32 3
    pointsColumn := ← r.field "points_col" unsigned64 0
    words := ← r.field "translation" (table Str.decode text) []
    cars := ← r.field "cars" (table integerKey text) []
    carClasses := ← r.field "car_classes" (table integerKey text) []
    labels := ← r.field "labels" (list LabelSpec.decode) [] }

end ThemeSpec

end RaceOverlay
