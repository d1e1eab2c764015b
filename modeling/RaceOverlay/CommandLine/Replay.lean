import RaceOverlay.Files.Load
import RaceOverlay.Tick.Engine

/-!
# Replays

A reader takes snapshots from files and hands them over to a renderer through a queue. Reader and
renderer take turns in any order. The reader stops at the first snapshot that is rejected, and the
renderer where the queue is empty and the reader has stopped.
-/
namespace RaceOverlay

/-- How far the reader is. -/
inductive Reader where
  /-- The paths that are still to be read. -/
  | reading (paths : List String)
  /-- A snapshot was read and is handed over next. -/
  | holding (w : Weekend) (paths : List String)
  | stopped (failure : Option LoadError)

def Reader.hasStopped : Reader → Bool
  | .stopped _ => true
  | _ => false

structure Replay where
  reader : Reader
  /-- What was handed over and not rendered yet, the first one in front. -/
  queue : List Weekend
  engine : Engine
  reports : List Report
  events : List Event
  /-- Whether the renderer has stopped. -/
  isOver : Bool

namespace Replay

/-- Who moves. -/
inductive Turn where
  | reader
  | renderer
  deriving DecidableEq

def start (engine : Engine) (paths : List String) : Replay :=
  ⟨.reading paths, [], engine, [], [], false⟩

/-- The reader reads a snapshot, hands it over or stops. -/
def moveReader (files : Files) (r : Replay) : Replay :=
  match r.reader with
  | .reading [] => { r with reader := .stopped none }
  | .reading (path :: rest) =>
    match files.snapshot path with
    | .ok w => { r with reader := .holding w rest }
    | .error e => { r with reader := .stopped (some e) }
  | .holding w rest => { r with reader := .reading rest, queue := r.queue ++ [w] }
  | .stopped _ => r

/-- The renderer renders a snapshot, stops, or waits for the reader. -/
def moveRenderer (r : Replay) : Replay :=
  match r.queue with
  | w :: rest =>
    let (report, engine, events) := r.engine.render w
    { r with
      queue := rest
      engine
      reports := r.reports ++ [report]
      events := r.events ++ events }
  | [] => if r.reader.hasStopped then { r with isOver := true } else r

/-- A move that is not possible changes nothing. -/
def move (files : Files) (r : Replay) : Turn → Replay
  | .reader => r.moveReader files
  | .renderer => r.moveRenderer

/-- The reports count only if every snapshot was accepted. -/
def outcome (r : Replay) : Except LoadError (List Report) :=
  match r.reader with
  | .stopped (some e) => .error e
  | _ => .ok r.reports

/-- Every snapshot is read, handed over and rendered before the next one. -/
def schedule (paths : List String) : List Turn :=
  (paths.flatMap fun _ => [.reader, .reader, .renderer]) ++ [.reader, .renderer]

def run (files : Files) (engine : Engine) (paths : List String) : Replay :=
  (schedule paths).foldl (move files) (start engine paths)

end Replay

end RaceOverlay
