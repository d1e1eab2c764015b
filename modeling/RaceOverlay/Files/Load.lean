import RaceOverlay.External.Rows
import RaceOverlay.Files.Tree
import RaceOverlay.Theme.Document
import RaceOverlay.Weekend.Snapshot

/-!
# Loading

Themes, snapshots and tables from files.
-/
namespace RaceOverlay

/-- A view of files by path. -/
abbrev Files := String → Reading

inductive FileKind where
  | theme
  | snapshot
  | data
  deriving DecidableEq

def FileKind.name : FileKind → String
  | .theme => "theme"
  | .snapshot => "snapshot"
  | .data => "data"

inductive LoadCause where
  | missing
  | refused (why : Refusal)
  | unreadable
  | document (e : DecodeError)
  /-- A table is no UTF-8 text. -/
  | notText
  | snapshot (e : SnapshotError)
  deriving DecidableEq

structure LoadError where
  kind : FileKind
  path : String
  cause : LoadCause
  deriving DecidableEq

namespace LoadError

/-- Whether the file could be opened at all. -/
def opened (e : LoadError) : Bool :=
  match e.cause with
  | .missing | .refused _ => false
  | _ => true

def message (e : LoadError) : String :=
  "Failed to " ++ (if e.opened then "parse " else "open ") ++ e.kind.name ++ " file " ++ e.path ++
    "!"

end LoadError

namespace Files

def content (files : Files) (path : String) : Except LoadCause Text.Bytes :=
  match files path with
  | .missing => .error .missing
  | .refused why => .error (.refused why)
  | .unreadable => .error .unreadable
  | .content bytes => .ok bytes

def text (files : Files) (path : String) : Except LoadCause String := do
  match Text.ofUtf8? (← files.content path) with
  | some s => return s
  | none => throw (.document .malformed)

def theme (files : Files) (path : String) : Except LoadError ThemeSpec :=
  Except.mapError (LoadError.mk .theme path) <| do
    (Json.decodeText ThemeSpec.decode (← files.text path)).mapError LoadCause.document

def snapshot (files : Files) (path : String) : Except LoadError Weekend :=
  Except.mapError (LoadError.mk .snapshot path) <| do
    (Weekend.ofText (← files.text path)).mapError LoadCause.snapshot

def rows (files : Files) (path : String) : Except LoadError (List Row × List Event) :=
  Except.mapError (LoadError.mk .data path) <| do
    match External.rows? (← files.content path) with
    | some rows => return rows
    | none => throw .notText

/-- The driver table is loaded first. -/
def external (files : Files) (data : String) (teams : Option String) (pointsColumn : Nat) :
    Except LoadError (External × List Event) := do
  let drivers ← files.rows data
  let teams ← match teams with
    | some path => files.rows path
    | none => pure ([], [])
  return (External.ofRows drivers.1 teams.1 pointsColumn, drivers.2 ++ teams.2)

end Files

end RaceOverlay
