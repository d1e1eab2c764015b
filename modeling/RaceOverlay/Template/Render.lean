import RaceOverlay.Template.Fill
import RaceOverlay.Template.Splice
import RaceOverlay.Text.Uppercase
import RaceOverlay.Token.Fields

/-!
# Rendering a label

The results of the calls are spliced in, the slots are filled, a backslash before an `n` becomes a
line break, and the case is changed last. A format that cannot be filled shows a marker.
-/
namespace RaceOverlay

/-- Shown in place of a label whose format cannot be filled. -/
def brokenText : String := "[invalid]"

/-- Every backslash that an `n` follows becomes a line break together with it. -/
def breakLines : List Char → List Char
  | [] => []
  | '\\' :: 'n' :: rest => '\n' :: breakLines rest
  | c :: rest => c :: breakLines rest

namespace Label

/-- The format with the results of the label's calls, given in the order of the calls. A call
without a result keeps its placeholder. -/
def spliced (label : Label) (results : List String) : List Char :=
  if label.calls.isEmpty then label.format.toList
  else Format.splice (label.calls.zip results) label.format.toList

def render {F : Type} [DecidableEq F] [TokenDomain F] (label : Label) (fields : Fields F)
    (results : List String) : String :=
  let text := match Format.fill fields.slot? (label.spliced results) with
    | .ok text => String.ofList (breakLines text)
    | .error _ => brokenText
  if label.uppercase then Text.uppercase text else text

end Label

end RaceOverlay
