import RaceOverlay.Text.Blank

/-!
# Wording

The words that overlays show, in the language of the theme, and the signs of gaps.
-/
namespace RaceOverlay

inductive Word where
  | lap | laps | minutes | of | race | qualify | practice | out | remaining | gridding | paceLap
  | finalLap | finishing | leader | invalid | replay | clear | partlyCloudy | mostlyCloudy
  | overcast
  deriving DecidableEq

namespace Word

def all : List Word := [
  .lap, .laps, .minutes, .of, .race, .qualify, .practice, .out, .remaining, .gridding, .paceLap,
  .finalLap, .finishing, .leader, .invalid, .replay, .clear, .partlyCloudy, .mostlyCloudy,
  .overcast]

/-- The key of the word in themes, which stands for itself where a theme has no text for it. -/
def key : Word → String
  | .lap => "lap"
  | .laps => "laps"
  | .minutes => "minutes"
  | .of => "of"
  | .race => "race"
  | .qualify => "qualify"
  | .practice => "practice"
  | .out => "out"
  | .remaining => "remaining"
  | .gridding => "gridding"
  | .paceLap => "pacelap"
  | .finalLap => "finallap"
  | .finishing => "finishing"
  | .leader => "leader"
  | .invalid => "invalid"
  | .replay => "replay"
  | .clear => "Clear"
  | .partlyCloudy => "Partly Cloudy"
  | .mostlyCloudy => "Mostly Cloudy"
  | .overcast => "Overcast"

def ofKey? (key : String) : Option Word := all.find? fun w => w.key == key

end Word

/-- The texts of the words, and whether the signs of gaps are swapped. -/
structure Wording where
  word : Word → String
  signsSwapped : Bool

namespace Wording

/-- Blanks around a text do not count, and a blank text is none. The first entry of a key is the one
that counts. -/
def ofTable (table : List (String × String)) (signsSwapped : Bool) : Wording where
  word w :=
    match (table.lookup w.key).map Text.trim with
    | some text => if text.isEmpty then w.key else text
    | none => w.key
  signsSwapped

def plain : Wording := ofTable [] false

/-- The sign of what is ahead. -/
def ahead (w : Wording) : String := if w.signsSwapped then "+" else "-"

/-- The sign of what is behind. -/
def behind (w : Wording) : String := if w.signsSwapped then "-" else "+"

/-- The text for the key of a word or of a sign; any other text stays. -/
def localize (w : Wording) (key : String) : String :=
  match Word.ofKey? key with
  | some word => w.word word
  | none =>
    if key = "ahead" then w.ahead
    else if key = "behind" then w.behind
    else key

def lapsText (w : Wording) (laps : Int) : String :=
  toString laps ++ " " ++ w.word (if 1 < laps then .laps else .lap)

end Wording

end RaceOverlay
