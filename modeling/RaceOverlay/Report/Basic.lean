import RaceOverlay.Tick.Cache

/-!
# Reports

A report holds the texts of all labels in one tick, and how often the caches were of use.
-/
namespace RaceOverlay

/-- The name of a label and its text. -/
structure Report.Entry where
  name : String
  text : String
  deriving DecidableEq

/-- What was rendered in one tick. -/
structure Report where
  /-- Counted from one. -/
  tick : Nat
  /-- The id of the running session, or -1 if there was none. -/
  session : Int
  labels : List Report.Entry
  cache : Cache.Counts
  deriving DecidableEq

end RaceOverlay
