import RaceOverlay.Text.Quoted

/-!
# Journal

What the library reports about its own work, as values. The wording is in one place, `message`.
-/
namespace RaceOverlay

inductive Level where
  | debug
  | info
  | warn
  deriving DecidableEq

def Level.name : Level → String
  | .debug => "DEBUG"
  | .info => "INFO"
  | .warn => "WARN"

inductive Event where
  /-- A script call of a template was removed: no known script answers it. -/
  | callRemoved (fragment : String)
  /-- An external reference of a template was removed: it names no column. -/
  | referenceRemoved (fragment : String)
  /-- A data row was skipped: its first column is no id. -/
  | rowSkipped (id : String)
  /-- A label shows nothing: its session does not exist. -/
  | sessionMissing (label : String)
  /-- A script call shows nothing: the script does not exist. -/
  | scriptMissing (script : String)
  | tickRendered (tick labels hits misses : Nat)
  | runStarted (labels : Nat)
  | runEnded (ticks : Nat)
  deriving DecidableEq

namespace Event

def level : Event → Level
  | .callRemoved _ | .scriptMissing _ => .warn
  | .runStarted _ | .runEnded _ => .info
  | .referenceRemoved _ | .rowSkipped _ | .sessionMissing _ | .tickRendered .. => .debug

def message : Event → String
  | .callRemoved fragment => "Script call not found: \x7b" ++ fragment ++ "\x7d"
  | .referenceRemoved fragment =>
    "Removed unresolved external reference \x7b" ++ fragment ++ "\x7d"
  | .rowSkipped id => "Skipped data row with id " ++ Text.quoted id
  | .sessionMissing label => "Label " ++ label ++ " has no session to render from"
  | .scriptMissing script => "Script " ++ script ++ " is not loaded"
  | .tickRendered tick labels hits misses =>
    s!"Tick {tick}: rendered {labels} labels, cache hits {hits}, misses {misses}"
  | .runStarted labels => s!"Rendering {labels} labels per tick"
  | .runEnded ticks => s!"Rendered {ticks} ticks"

end Event

end RaceOverlay
