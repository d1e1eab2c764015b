import RaceOverlay.Files.Path
import RaceOverlay.Text.Utf8

/-!
# File trees

Files and directories as values, as they are seen from a working directory.
-/
namespace RaceOverlay

open Text (Bytes)

/-- Why a path cannot be opened, whatever else there is. -/
inductive Refusal where
  | throughFile
  | nul
  | tooLong
  /-- The system does not allow it. -/
  | denied
  deriving DecidableEq

/-- What reading a path comes to. -/
inductive Reading where
  /-- Nothing has the path. -/
  | missing
  /-- The path cannot be opened. -/
  | refused (why : Refusal)
  /-- The path can be opened but not read: it is a directory. -/
  | unreadable
  | content (bytes : Bytes)
  deriving DecidableEq

structure FileTree where
  /-- The first entry of a place is the one that counts. -/
  files : List (Place × Bytes)
  /-- Directories without which none of the files would be missing. -/
  directories : List Place

inductive WriteError where
  | noDirectory (path : String)
  | noFile (path : String)
  deriving DecidableEq

def WriteError.message : WriteError → String
  | .noDirectory path => "Failed to create output directory " ++ path ++ "!"
  | .noFile path => "Failed to open output file " ++ path ++ "!"

namespace FileTree

/-- An empty working directory. -/
def empty : FileTree := ⟨[(.nullDevice, [])], Place.systemDirectories⟩

def file? (t : FileTree) (place : Place) : Option Bytes := t.files.lookup place

/-- Every directory on the way to a file or a directory exists. -/
def isDirectory (t : FileTree) (place : Place) : Bool :=
  place.names.isEmpty || t.directories.any (place.leadsTo ·) ||
    t.files.any fun f => place.leadsTo f.1 && place != f.1

/-- Goes from a directory along names. -/
def walk (t : FileTree) (place : Place) : List String → Except Reading Place
  | [] => .ok place
  | name :: rest =>
    if t.isDirectory place then
      if Path.nameLimit < name.utf8ByteSize then .error (.refused .tooLong)
      else walk t (place.step name) rest
    else if (t.file? place).isSome then .error (.refused .throughFile)
    else .error .missing

/-- The place that a path leads to; there may be nothing. -/
def resolve (t : FileTree) (path : String) : Except Reading Place :=
  if Path.hasNul path then .error (.refused .nul)
  else if Path.sizeLimit ≤ path.utf8ByteSize then .error (.refused .tooLong)
  else if path.isEmpty then .error .missing
  else t.walk (Path.start path) (Path.names path)

def read (t : FileTree) (path : String) : Reading :=
  match t.resolve path with
  | .error r => r
  | .ok place =>
    if t.isDirectory place then .unreadable
    else match t.file? place with
      | some bytes => if Path.namesDirectory path then .refused .throughFile else .content bytes
      | none => .missing

/-- Puts a file in a directory that exists. -/
def put (t : FileTree) (place : Place) (bytes : Bytes) : FileTree :=
  if place = .nullDevice then t
  else { t with files := (place, bytes) :: t.files.filter fun f => f.1 != place }

/-- Makes the directories on the way along names that do not exist. -/
def makeWay (t : FileTree) (place : Place) : List String → Option FileTree
  | [] => some t
  | name :: rest =>
    let next := place.step name
    if Path.nameLimit < name.utf8ByteSize || (t.file? next).isSome then none
    else if t.isDirectory next then makeWay t next rest
    else makeWay { t with directories := next :: t.directories } next rest

def makeDirectories (t : FileTree) (path : String) : Option FileTree :=
  if Path.hasNul path || Path.sizeLimit ≤ path.utf8ByteSize then none
  else t.makeWay (Path.start path) (Path.names path)

/-- Puts a file at a path whose directory exists. -/
def putFile (t : FileTree) (path : String) (bytes : Bytes) : Except WriteError FileTree :=
  match t.resolve path with
  | .error _ => .error (.noFile path)
  | .ok place =>
    if t.isDirectory place || Path.namesDirectory path then .error (.noFile path)
    else .ok (t.put place bytes)

/-- Writes a file and makes the directories that it needs. -/
def write (t : FileTree) (path : String) (bytes : Bytes) : Except WriteError FileTree :=
  match Path.parent? path with
  | none | some "" => t.putFile path bytes
  | some directory =>
    match t.makeDirectories directory with
    | some t => t.putFile path bytes
    | none => .error (.noDirectory directory)

end FileTree

end RaceOverlay
