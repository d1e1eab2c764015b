import RaceOverlay.Clock
import RaceOverlay.Script
import RaceOverlay.Theme.Basic

/-!
# Scenes

A scene puts a weekend together with the settings that it is shown with.
-/
namespace RaceOverlay

/-- Everything that the labels of one tick may show. -/
structure Scene where
  weekend : Weekend
  theme : Theme
  external : External
  scripts : Registry
  timer : Timer

end RaceOverlay
