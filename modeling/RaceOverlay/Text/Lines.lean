/-!
# Lines

A line ends at a line feed, and a carriage return right before it belongs to the line end. A text
that ends with a line feed has no empty last line, and the empty text has no line at all.
-/
namespace RaceOverlay.Text

/-- The parts between line feeds: one more than there are line feeds. -/
def splitFeeds : List Char → List (List Char)
  | [] => [[]]
  | c :: cs =>
    if c = '\n' then [] :: splitFeeds cs
    else match splitFeeds cs with
      | [] => [[c]]
      | line :: rest => (c :: line) :: rest

theorem splitFeeds_ne_nil (cs : List Char) : splitFeeds cs ≠ [] := by
  cases cs with
  | nil => simp [splitFeeds]
  | cons c cs =>
    by_cases h : c = '\n'
    · simp [splitFeeds, h]
    · cases hs : splitFeeds cs <;> simp [splitFeeds, h, hs]

/-- The part without one carriage return at its end. -/
def dropReturn (line : List Char) : List Char :=
  if line.getLast? = some '\r' then line.dropLast else line

/-- Every part but the last was ended by a line feed; the last one is a line unless it is empty. -/
def endedLines : List (List Char) → List (List Char)
  | [] => []
  | [last] => if last.isEmpty then [] else [last]
  | line :: rest => dropReturn line :: endedLines rest

def lines (s : String) : List String :=
  (endedLines (splitFeeds s.toList)).map String.ofList

end RaceOverlay.Text
