import RaceOverlay.CommandLine.Run

/-!
# Command line

Reads the files that the options name, runs, and shows or writes the outcome.
-/
namespace RaceOverlay.CommandLine

def usageText : String :=
  "Usage: --theme-path FILE --snapshot-paths FILE... [--data-path FILE] [--teams-path FILE]\n" ++
  "       [--output-path FILE] [--debug]\n"

/-- The system's number for reading a directory as if it were a file. -/
def isDirectoryCode : UInt32 := 21

/-- What reading a path comes to in the working directory. -/
def readPath (path : String) : IO Reading := do
  try
    let bytes ← IO.FS.readBinFile path
    return .content bytes.data.toList
  catch e =>
    match e with
    | .noFileOrDirectory .. => return .missing
    | .inappropriateType _ code _ =>
      return if code == isDirectoryCode then .unreadable else .refused .throughFile
    | _ => return .refused .denied

/-- The files at the given paths; there are no others. -/
def readFiles (paths : List String) : IO Files := do
  let files ← paths.mapM fun path => return (path, ← readPath path)
  return fun path => (files.lookup path).getD .missing

def writeFile (path text : String) : IO (Option WriteError) := do
  match Path.parent? path with
  | none | some "" => pure ()
  | some directory =>
    try IO.FS.createDirAll directory
    catch _ => return some (.noDirectory directory)
  try
    IO.FS.writeFile path text
    return none
  catch _ => return some (.noFile path)

def showEvents (debug : Bool) (events : List Event) : IO Unit := do
  for e in events do
    if debug || e.level != .debug then IO.eprintln (e.level.name ++ " " ++ e.message)

def fail (message : String) : IO UInt32 := do
  IO.eprintln ("Error: " ++ message)
  return 1

def runOptions (o : Options) : IO UInt32 := do
  match succeed (← readFiles (inputPaths o)) o with
  | .error e => fail e.message
  | .ok success =>
    showEvents o.debug success.events
    match success.delivery with
    | .console text =>
      IO.print text
      return 0
    | .file path text =>
      match ← writeFile path text with
      | some e => fail e.message
      | none => return 0

end RaceOverlay.CommandLine

def main (arguments : List String) : IO UInt32 := do
  match RaceOverlay.Options.parse arguments with
  | .ok o => RaceOverlay.CommandLine.runOptions o
  | .error stop =>
    match stop with
    | .version => IO.println "0.1.0"
    | .help => IO.print RaceOverlay.CommandLine.usageText
    | .usage => IO.eprint RaceOverlay.CommandLine.usageText
    return stop.exitCode.toUInt32
