import RaceOverlay.Template.Compile
import RaceOverlay.Theme.Document
import RaceOverlay.Token.Session
import RaceOverlay.Token.Standing
import RaceOverlay.Wording

/-!
# Themes

A theme with its labels compiled. Labels of sessions are compiled for session fields, all others for
standing fields.
-/
namespace RaceOverlay

structure Theme.Entry where
  spec : LabelSpec
  label : Label

structure Theme where
  name : String := ""
  wording : Wording := .plain
  /-- Whether cars that left the world are shown as out. -/
  showsRetired : Bool := false
  /-- The number of remaining laps that the lap counter counts down from. -/
  countdownFrom : Int := 3
  /-- The column of external data that holds the points; zero is none. -/
  pointsColumn : Nat := 0
  labels : List Theme.Entry := []
  cars : List (Int × String) := []
  carClasses : List (Int × String) := []

namespace LabelSpec

def compile (spec : LabelSpec) (scripts : List String) : Label × List Event :=
  match spec.dataset with
  | .sessionState =>
    Label.compile SessionField scripts spec.template spec.rounding spec.uppercase
  | .standing | .followed =>
    Label.compile StandingField scripts spec.template spec.rounding spec.uppercase

end LabelSpec

namespace Theme

/-- Compiles every label for the given scripts and reports what was cut out of them. -/
def compile (spec : ThemeSpec) (scripts : List String) : Theme × List Event :=
  ({ name := spec.name
     wording := Wording.ofTable spec.words spec.signsSwapped
     showsRetired := spec.showsRetired
     countdownFrom := spec.countdownFrom
     pointsColumn := spec.pointsColumn
     labels := spec.labels.map fun s => ⟨s, (s.compile scripts).1⟩
     cars := spec.cars
     carClasses := spec.carClasses },
   spec.labels.flatMap fun s => (s.compile scripts).2)

/-- The name of a car model, or its number. -/
def carName (t : Theme) (model : Int) : String := (t.cars.lookup model).getD (toString model)

/-- The name of a car model's class: the theme's name, else the session's, else the number of the
model. -/
def carClass (t : Theme) (model : Int) (className : String) : String :=
  match t.carClasses.lookup model with
  | some name => name
  | none => if className.isEmpty then toString model else className

end Theme

end RaceOverlay
