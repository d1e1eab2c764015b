import RaceOverlay.Template.Compile

/-!
# Script results in a format

Results take the places of the calls, from the left and in one pass: what was put in is not read
again. The braces of a result are doubled, so that they stand for themselves when slots are filled.
-/
namespace RaceOverlay.Format

/-- The text with every brace doubled. -/
def escape (cs : List Char) : List Char :=
  cs.flatMap fun c => if c = '{' ∨ c = '}' then [c, c] else [c]

/-- The first call whose placeholder the text starts with, and its result. -/
def answered? (answers : List (Call × String)) (cs : List Char) : Option (Call × String) :=
  answers.find? fun a => a.1.placeholder.isPrefixOf cs

/-- A doubled opening brace is passed over; a placeholder can start at any other opening brace, also
inside a fragment. -/
def splice (answers : List (Call × String)) : List Char → List Char
  | [] => []
  | '{' :: '{' :: rest => '{' :: '{' :: splice answers rest
  | '{' :: rest =>
    match answered? answers ('{' :: rest) with
    | some (call, result) =>
      escape result.toList ++ splice answers (rest.drop (call.placeholder.length - 1))
    | none => '{' :: splice answers rest
  | c :: rest => c :: splice answers rest
termination_by cs => cs.length
decreasing_by all_goals simp_wf; try omega

end RaceOverlay.Format
