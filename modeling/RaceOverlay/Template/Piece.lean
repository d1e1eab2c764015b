/-!
# Pieces of a template

A template is cut once, from the left: a doubled opening brace, a fragment up to the next closing
brace, and all other characters one by one. Closing braces mean nothing outside fragments, and an
opening brace inside a fragment is a character of the fragment.
-/
namespace RaceOverlay

inductive Piece where
  /-- A character that opens nothing. -/
  | plain (c : Char)
  /-- A doubled opening brace. -/
  | brace
  /-- The text between an opening brace and the next closing one. -/
  | fragment (inner : List Char)
  /-- The text after an opening brace that no closing one follows. -/
  | unclosed (rest : List Char)
  deriving DecidableEq

namespace Piece

/-- The text that a piece was cut from. -/
def source : Piece → List Char
  | .plain c => [c]
  | .brace => ['{', '{']
  | .fragment inner => '{' :: inner ++ ['}']
  | .unclosed rest => '{' :: rest

/-- Cuts a text, either outside fragments or after the given characters of a fragment, last one
first. -/
def cut : Option (List Char) → List Char → List Piece
  | none, [] => []
  | none, '{' :: '{' :: rest => .brace :: cut none rest
  | none, '{' :: rest => cut (some []) rest
  | none, c :: rest => .plain c :: cut none rest
  | some inner, [] => [.unclosed inner.reverse]
  | some inner, '}' :: rest => .fragment inner.reverse :: cut none rest
  | some inner, c :: rest => cut (some (c :: inner)) rest

/-- The text that a cut in progress has still to account for. -/
def pending : Option (List Char) → List Char
  | none => []
  | some inner => '{' :: inner.reverse

theorem source_cut (state : Option (List Char)) (cs : List Char) :
    (cut state cs).flatMap source = pending state ++ cs := by
  fun_induction cut state cs <;> simp_all [source, pending]

end Piece

/-- The pieces of a text. -/
def pieces (cs : List Char) : List Piece := Piece.cut none cs

/-- Nothing is lost: the pieces hold the whole text in order. -/
theorem source_pieces (cs : List Char) : (pieces cs).flatMap Piece.source = cs :=
  Piece.source_cut none cs

end RaceOverlay
