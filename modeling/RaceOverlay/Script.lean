import RaceOverlay.External.Basic
import RaceOverlay.Journal
import RaceOverlay.Number.Rounding
import RaceOverlay.Order.Keys
import RaceOverlay.Text.Blank
import RaceOverlay.Text.Numeral
import RaceOverlay.Weekend.Basic

/-!
# Scripts

A script answers the calls that labels make with a text. Scripts are known by name, and of two with
one name the one that was registered last counts.
-/
namespace RaceOverlay

/-- What a label is rendered for. -/
inductive Target where
  | standing (s : Standing)
  | session

/-- What a script may look at. -/
structure Occasion where
  target : Target
  session : Session
  rounding : Rounding
  external : External

structure Script where
  name : String
  answer : String → Occasion → String

/-- Scripts in the order in which they were registered, each name once. -/
structure Registry where
  scripts : List Script
  names_nodup : (scripts.map (·.name)).Nodup

namespace Registry

def empty : Registry := ⟨[], .nil⟩

/-- Adds a script in place of the one with its name. -/
def register (r : Registry) (script : Script) : Registry where
  scripts := r.scripts.filter (fun s => s.name != script.name) ++ [script]
  names_nodup := Order.nodup_keys_concat r.names_nodup script

def names (r : Registry) : List String := r.scripts.map (·.name)

def script? (r : Registry) (name : String) : Option Script :=
  r.scripts.find? fun s => s.name == name

/-- The answer to a call, and what was reported. A script that is not known answers with nothing. -/
def invoke (r : Registry) (name method : String) (occasion : Occasion) : String × List Event :=
  match r.script? name with
  | some s => (s.answer method occasion, [])
  | none => ("", [.scriptMissing name])

/-- A diagnostic text with the names. -/
def summary (r : Registry) : String :=
  "ScriptRegistry \x7b providers: [" ++ ", ".intercalate (r.names.map Text.quoted) ++ "] \x7d"

end Registry

/-- The columns of the driver's team. The method is the index of the column. -/
def teamScript : Script where
  name := "team"
  answer method occasion :=
    match occasion.target, Text.unsigned64? (Text.trimChars method.toList) with
    | .standing s, some column => ((occasion.external.teamColumns s.driver.team)[column]?).getD ""
    | _, _ => ""

/-- The scripts that are always there. -/
def Registry.standard : Registry := Registry.empty.register teamScript

end RaceOverlay
