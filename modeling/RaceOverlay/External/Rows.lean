import RaceOverlay.External.Basic
import RaceOverlay.Journal
import RaceOverlay.Table.Delimited
import RaceOverlay.Text.Blank
import RaceOverlay.Text.Numeral

/-!
# Rows of external data

A record is a row if it has a positive id in its first field and at least one column after it.
Columns are kept as they are. Other records are passed over, and those with a bad id are reported.
-/
namespace RaceOverlay.External

def rowId? (field : String) : Option Int :=
  (Text.signed32? (Text.trimChars field.toList)).filter fun id => 0 < id

def row? : List String → Option Row
  | id :: column :: columns => (rowId? id).map fun n => (n, column :: columns)
  | _ => none

def skipped? : List String → Option Event
  | id :: _ :: _ => if (rowId? id).isSome then none else some (.rowSkipped id)
  | _ => none

/-- The rows of a table and what was reported about the others, if the table is text. -/
def rows? (table : Text.Bytes) : Option (List Row × List Event) :=
  (Table.records? table).map fun records =>
    (records.filterMap row?, records.filterMap skipped?)

/-- The points in a column of a row. -/
def rowPoints? (column : Nat) (row : Row) : Option (Int × Int) := do
  let field ← row.2[column]?
  let points ← Text.signed32? (Text.trimChars field.toList)
  return (row.1, points)

/-- Takes the points from a column of the driver rows; the first column holds none. -/
def ofRows (drivers teams : List Row) (pointsColumn : Nat) : External where
  drivers
  teams
  points := if pointsColumn = 0 then [] else drivers.filterMap (rowPoints? pointsColumn)

end RaceOverlay.External
