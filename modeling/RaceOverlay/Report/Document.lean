import RaceOverlay.Json.Pretty
import RaceOverlay.Report.Basic

/-!
# Report documents

All reports of a run as one JSON array.
-/
namespace RaceOverlay.Report

def labelJson (label : Report.Entry) : Json :=
  .ofMembers [("name", .ofText label.name), ("text", .ofText label.text)]

def json (r : Report) : Json := .ofMembers [
  ("tick", .ofInt r.tick), ("session", .ofInt r.session),
  ("labels", .array (r.labels.map labelJson)),
  ("cache", .ofMembers [("hits", .ofInt r.cache.hits), ("misses", .ofInt r.cache.misses)])]

/-- The text of a file that holds all reports of a run. -/
def document (reports : List Report) : String := (Json.array (reports.map json)).prettyText

end RaceOverlay.Report
