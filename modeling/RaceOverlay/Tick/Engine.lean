import RaceOverlay.Tick.Render

/-!
# Engines

An engine renders one weekend after the other and counts the ticks.
-/
namespace RaceOverlay

structure Engine where
  theme : Theme
  external : External
  scripts : Registry
  timer : Timer := clockText
  cache : Caches := .empty
  /-- The number of ticks so far. -/
  ticks : Nat := 0

namespace Engine

def scene (e : Engine) (w : Weekend) : Scene :=
  ⟨w, e.theme, e.external, e.scripts, e.timer⟩

def render (e : Engine) (w : Weekend) : Report × Engine × List Event :=
  let tick := e.ticks + 1
  let (report, cache, events) := (e.scene w).render e.cache tick
  (report, { e with cache, ticks := tick }, events)

def renderEach (e : Engine) : List Weekend → List Report × Engine × List Event
  | [] => ([], e, [])
  | w :: ws =>
    let (report, next, events) := e.render w
    let (reports, last, rest) := renderEach next ws
    (report :: reports, last, events ++ rest)

/-- Renders the weekends in order and reports the start and the end of the run. -/
def run (e : Engine) (ws : List Weekend) : List Report × Engine × List Event :=
  let (reports, last, events) := e.renderEach ws
  (reports, last, .runStarted e.theme.labels.length :: events ++ [.runEnded reports.length])

end Engine

end RaceOverlay
