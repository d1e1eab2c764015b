/-!
# Options

The arguments of the command line, read from the left. A long option takes its value after an equals
sign or from the next argument, a short one also from the rest of its own argument. Short flags may
stand together. There are no other arguments than options and their values.
-/
namespace RaceOverlay

structure Options where
  debug : Bool
  themePath : String
  /-- At least one. -/
  snapshotPaths : List String
  dataPath : Option String
  teamsPath : Option String
  outputPath : Option String
  deriving DecidableEq

/-- Why the arguments give no options. -/
inductive Stop where
  | help
  | version
  | usage
  deriving DecidableEq

def Stop.exitCode : Stop → Nat
  | .help | .version => 0
  | .usage => 2

namespace Options

/-- An option with values. -/
inductive Setting where
  | theme
  | snapshots
  | data
  | teams
  | output
  deriving DecidableEq

inductive Flag where
  | debug
  | help
  | version
  | setting (s : Setting)

def ofLong? (name : String) : Option Flag :=
  [("debug", Flag.debug), ("help", .help), ("version", .version),
    ("theme-path", .setting .theme), ("snapshot-paths", .setting .snapshots),
    ("data-path", .setting .data), ("teams-path", .setting .teams),
    ("output-path", .setting .output)].lookup name

def ofShort? (c : Char) : Option Flag :=
  [('d', Flag.debug), ('h', .help), ('V', .version), ('t', .setting .theme),
    ('s', .setting .snapshots), ('o', .setting .output)].lookup c

/-- What was read so far. -/
structure Given where
  debug : Nat := 0
  /-- Every occurrence of a setting with its values, last one first. -/
  settings : List (Setting × List String) := []
  /-- Whether the last occurrence takes a value from the next argument. -/
  takesValue : Bool := false

namespace Given

/-- A setting, with a value if one is attached. An attached value is the only one. -/
def set (g : Given) (s : Setting) (attached : Option String) : Given :=
  { g with settings := (s, attached.toList) :: g.settings, takesValue := attached.isNone }

/-- A value of its own. Only snapshots take further ones. -/
def value (g : Given) (text : String) : Except Stop Given :=
  match g.takesValue, g.settings with
  | true, (s, values) :: rest =>
    .ok { g with settings := (s, values ++ [text]) :: rest, takesValue := s == .snapshots }
  | _, _ => .error .usage

/-- A flag without an attached value. -/
def flag (g : Given) : Flag → Except Stop Given
  | .debug => .ok { g with debug := g.debug + 1, takesValue := false }
  | .help => .error .help
  | .version => .error .version
  | .setting s => .ok (g.set s none)

/-- The name of a long option and what follows the first equals sign. -/
def splitEquals : List Char → List Char × Option (List Char)
  | [] => ([], none)
  | '=' :: rest => ([], some rest)
  | c :: rest => (c :: (splitEquals rest).1, (splitEquals rest).2)

def long (g : Given) (text : List Char) : Except Stop Given :=
  let (name, attached) := splitEquals text
  match ofLong? (String.ofList name), attached with
  | some f, none => g.flag f
  | some (.setting s), some value => .ok (g.set s (some (String.ofList value)))
  | _, _ => .error .usage

/-- Short flags from the left. A setting takes the rest of the text, if there is any. -/
def shorts (g : Given) : List Char → Except Stop Given
  | [] => .ok g
  | c :: rest =>
    match ofShort? c, rest with
    | some (.setting s), '=' :: value => .ok (g.set s (some (String.ofList value)))
    | some (.setting s), d :: value => .ok (g.set s (some (String.ofList (d :: value))))
    | some f, _ => do shorts (← g.flag f) rest
    | none, _ => .error .usage

def argument (g : Given) (text : String) : Except Stop Given :=
  match text.toList with
  | '-' :: '-' :: name => g.long name
  | '-' :: c :: rest => g.shorts (c :: rest)
  | _ => g.value text

/-- Nothing may follow a double dash. -/
def arguments (g : Given) : List String → Except Stop Given
  | [] => .ok g
  | text :: rest =>
    if text = "--" then if rest.isEmpty then .ok g else .error .usage
    else do arguments (← g.argument text) rest

/-- The values of each occurrence of a setting, in order. -/
def occurrences (g : Given) (s : Setting) : List (List String) :=
  (g.settings.reverse.filter fun o => o.1 == s).map (·.2)

/-- The value of a setting that may occur once. -/
def single (g : Given) (s : Setting) : Except Stop (Option String) :=
  match g.occurrences s with
  | [] => .ok none
  | [[value]] => .ok (some value)
  | _ => .error .usage

def options (g : Given) : Except Stop Options := do
  let theme ← g.single .theme
  let dataPath ← g.single .data
  let teamsPath ← g.single .teams
  let outputPath ← g.single .output
  let snapshotPaths := (g.occurrences .snapshots).flatten
  match theme with
  | some themePath =>
    if snapshotPaths.isEmpty || 1 < g.debug then throw .usage
    else return ⟨g.debug == 1, themePath, snapshotPaths, dataPath, teamsPath, outputPath⟩
  | none => throw .usage

end Given

/-- Help and version are answered as soon as they are read; what is missing or repeated is found at
the end. -/
def parse (arguments : List String) : Except Stop Options := do
  (← Given.arguments {} arguments).options

end Options

end RaceOverlay
