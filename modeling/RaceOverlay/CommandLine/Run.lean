import RaceOverlay.CommandLine.Options
import RaceOverlay.CommandLine.Replay
import RaceOverlay.Report.Document
import RaceOverlay.Report.Layout

/-!
# Running the command line

Theme, external data and snapshots are loaded in this order, and the first fault ends the run before
anything is shown or written.
-/
namespace RaceOverlay.CommandLine

/-- What a run has to show. -/
inductive Delivery where
  | console (text : String)
  | file (path text : String)
  deriving DecidableEq

/-- A run that came to its end. -/
structure Success where
  delivery : Delivery
  events : List Event
  deriving DecidableEq

/-- Without a driver table there is no external data, whatever other tables are given. -/
def external (files : Files) (o : Options) (pointsColumn : Nat) :
    Except LoadError (External × List Event) :=
  match o.dataPath with
  | some path => files.external path o.teamsPath pointsColumn
  | none => .ok (.empty, [])

/-- The engine of a run, and what was reported on the way to it. -/
def prepare (files : Files) (o : Options) : Except LoadError (Engine × List Event) := do
  let scripts := Registry.standard
  let (theme, compiled) := Theme.compile (← files.theme o.themePath) scripts.names
  let (external, loaded) ← external files o theme.pointsColumn
  return ({ theme, external, scripts }, compiled ++ loaded)

/-- Reports go to a file, if one is named, or else to the console. -/
def deliver (o : Options) (reports : List Report) : Delivery :=
  match o.outputPath with
  | some path => .file path (Report.document reports)
  | none => .console (String.join (reports.map Report.consoleText))

/-- What a run has to show once its replay is over. -/
def conclude (o : Options) (engine : Engine) (prepared : List Event) (replay : Replay) :
    Except LoadError Success := do
  let reports ← replay.outcome
  return ⟨deliver o reports, prepared ++ .runStarted engine.theme.labels.length ::
    replay.events ++ [.runEnded reports.length]⟩

def succeed (files : Files) (o : Options) : Except LoadError Success := do
  let (engine, prepared) ← prepare files o
  conclude o engine prepared (Replay.run files engine o.snapshotPaths)

/-- The paths of all files that a run may read. -/
def inputPaths (o : Options) : List String :=
  o.themePath :: o.dataPath.toList ++ o.teamsPath.toList ++ o.snapshotPaths

/-- How a run ended, and the files after it. -/
structure Outcome where
  exitCode : Nat
  output : String
  fault : Option String
  files : FileTree

/-- Writes or shows what a run has to show. -/
def finish (tree : FileTree) : Delivery → Outcome
  | .console text => ⟨0, text, none, tree⟩
  | .file path text =>
    match tree.write path (Text.toUtf8 text) with
    | .ok tree => ⟨0, "", none, tree⟩
    | .error e => ⟨1, "", some e.message, tree⟩

/-- A run that did not come to its end leaves the files as they are. -/
def settle (tree : FileTree) : Except LoadError Success → Outcome
  | .error e => ⟨1, "", some e.message, tree⟩
  | .ok success => finish tree success.delivery

/-- Runs with the given files as the working directory. -/
def run (tree : FileTree) (arguments : List String) : Outcome :=
  match Options.parse arguments with
  | .error stop => ⟨stop.exitCode, "", none, tree⟩
  | .ok o => settle tree (succeed tree.read o)

end RaceOverlay.CommandLine
