import RaceOverlay.Report.Basic
import RaceOverlay.Text.Lines

/-!
# Console layout

One row per line of a label: the name, a bar and the line. The names of the further lines of a label
are left blank. The column of names is as many characters wide as the greatest name has bytes.
-/
namespace RaceOverlay

/-- The text with blanks up to a number of characters. -/
def padRight (width : Nat) (s : String) : String :=
  s ++ String.ofList (List.replicate (width - s.length) ' ')

namespace Report

def nameWidth (r : Report) : Nat := (r.labels.map (·.name.utf8ByteSize)).foldl max 0

def row (width : Nat) (name line : String) : String := padRight width name ++ " | " ++ line ++ "\n"

/-- A label without a line has one empty row. -/
def rows (width : Nat) (label : Report.Entry) : List String :=
  match Text.lines label.text with
  | [] => [row width label.name ""]
  | first :: rest => row width label.name first :: rest.map (row width "")

def layout (r : Report) : String := String.join (r.labels.flatMap (rows r.nameWidth))

def heading (r : Report) : String :=
  s!"RESULT: Tick {r.tick} (session {r.session}, cache hits {r.cache.hits}, " ++
    s!"misses {r.cache.misses})\n"

/-- What the console shows of a tick. -/
def consoleText (r : Report) : String := r.heading ++ r.layout

end Report

end RaceOverlay
