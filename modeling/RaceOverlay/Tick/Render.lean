import RaceOverlay.Fields.Session
import RaceOverlay.Fields.Standing
import RaceOverlay.Report.Basic
import RaceOverlay.Template.Render
import RaceOverlay.Tick.Subject

/-!
# Rendering a tick

Every label of the theme in order. The fields of an entity are taken from the cache where an earlier
label needed them.
-/
namespace RaceOverlay

/-- A rendered text, the caches after it, and what was reported. -/
structure Rendered where
  text : String
  cache : Caches
  events : List Event

namespace Scene

/-- The answers to the calls of a label, in their order, and what was reported. -/
def answers (scene : Scene) (label : Label) (occasion : Occasion) : List (String × List Event) :=
  label.calls.map fun c => scene.scripts.invoke c.script c.method occasion

def occasion (scene : Scene) (target : Target) (session : Session) (rounding : Rounding) :
    Occasion :=
  ⟨target, session, rounding, scene.external⟩

def renderStanding (scene : Scene) (label : Label) (session : Session) (standing : Standing)
    (cache : Caches) : Rendered :=
  let (fields, standings) :=
    cache.standings.fetch (.ofStanding session.id standing.driver.car) label.rounding fun _ =>
      StandingView.fields ⟨scene, session, standing, label.rounding⟩
  let answers := scene.answers label (scene.occasion (.standing standing) session label.rounding)
  { text := label.render fields (answers.map (·.1))
    cache := { cache with standings }
    events := answers.flatMap (·.2) }

def renderSession (scene : Scene) (label : Label) (session : Session) (cache : Caches) :
    Rendered :=
  let (fields, sessions) :=
    cache.sessions.fetch (.ofSession session.id) label.rounding fun _ =>
      SessionView.fields ⟨scene, session, label.rounding⟩
  let answers := scene.answers label (scene.occasion .session session label.rounding)
  { text := label.render fields (answers.map (·.1))
    cache := { cache with sessions }
    events := answers.flatMap (·.2) }

/-- A label without a subject is empty, and reported only where its session is missing. -/
def renderLabel (scene : Scene) (l : Theme.Entry) (cache : Caches) : Rendered :=
  match l.spec.subject scene.weekend scene.external with
  | .noSession => ⟨"", cache, [.sessionMissing l.spec.name]⟩
  | .noStanding => ⟨"", cache, []⟩
  | .standing session standing => scene.renderStanding l.label session standing cache
  | .session session => scene.renderSession l.label session cache

/-- Renders labels from the left, each with the caches that the one before left behind. -/
def renderLabels (scene : Scene) (cache : Caches) :
    List Theme.Entry → List Report.Entry × Caches × List Event
  | [] => ([], cache, [])
  | l :: ls =>
    let first := scene.renderLabel l cache
    let (labels, cache, events) := renderLabels scene first.cache ls
    (⟨l.spec.name, first.text⟩ :: labels, cache, first.events ++ events)

/-- The report of a tick, the caches after it, and what was reported. -/
def render (scene : Scene) (cache : Caches) (tick : Nat) : Report × Caches × List Event :=
  let (labels, cache, events) := scene.renderLabels cache.cleared scene.theme.labels
  let report : Report := {
    tick
    session := match scene.weekend.current? with
      | some s => s.id
      | none => -1
    labels
    cache := cache.counts }
  (report, cache,
    events ++ [.tickRendered tick labels.length report.cache.hits report.cache.misses])

end Scene

end RaceOverlay
