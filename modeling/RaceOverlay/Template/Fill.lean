import RaceOverlay.Template.Compile

/-!
# Slot forms

Filling the slots of a compiled format. A fragment holds a slot, or a slot and a fallback slot; an
empty fallback stands for the empty text. Doubled braces give single ones, and a closing brace that
closes nothing stands for itself.
-/
namespace RaceOverlay

/-- The first fragment of a format that is no slot form or whose slots hold nothing. -/
structure BadFragment where
  fragment : List Char
  deriving DecidableEq

def BadFragment.message (e : BadFragment) : String :=
  "Invalid format fragment " ++ String.ofList e.fragment

namespace Format

/-- The text of a fragment, if it is a slot form that can be filled. -/
def slotText? (lookup : Nat → Option String) (inner : List Char) : Option String :=
  match Template.splitBar inner with
  | (primary, none) => (Text.unsigned64? primary).bind lookup
  | (primary, some []) => (Text.unsigned64? primary).map fun n => (lookup n).getD ""
  | (primary, some fallback) => do
    let n ← Text.unsigned64? primary
    let m ← Text.unsigned64? fallback
    lookup n <|> lookup m

/-- Fills pieces from the left and stops at the first one that cannot be filled. -/
def fillPieces (lookup : Nat → Option String) : List Piece → Except BadFragment (List Char)
  | [] => .ok []
  | .plain '}' :: .plain '}' :: rest => (fillPieces lookup rest).map ('}' :: ·)
  | .plain c :: rest => (fillPieces lookup rest).map (c :: ·)
  | .brace :: rest => (fillPieces lookup rest).map ('{' :: ·)
  | .fragment inner :: rest =>
    match slotText? lookup inner with
    | some text => (fillPieces lookup rest).map (text.toList ++ ·)
    | none => .error ⟨(Piece.fragment inner).source⟩
  | .unclosed inner :: _ => .error ⟨(Piece.unclosed inner).source⟩

/-- The text of a format whose slots are looked up. -/
def fill (lookup : Nat → Option String) (format : List Char) :
    Except BadFragment (List Char) :=
  fillPieces lookup (pieces format)

end Format

end RaceOverlay
