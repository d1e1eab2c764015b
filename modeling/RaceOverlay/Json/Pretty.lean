import RaceOverlay.Json.Value

/-!
# Indented JSON text

One item or member a line, two blanks for each open container. An empty container is a pair of
brackets. Only what JSON requires is escaped.
-/
namespace RaceOverlay.Json

def escapedChar (c : Char) : List Char :=
  if c = '"' then ['\\', '"']
  else if c = '\\' then ['\\', '\\']
  else if c = '\n' then ['\\', 'n']
  else if c = '\r' then ['\\', 'r']
  else if c = '\t' then ['\\', 't']
  else if c.toNat = 8 then ['\\', 'b']
  else if c.toNat = 12 then ['\\', 'f']
  else if c.toNat < 0x20 then ['\\', 'u'] ++ List.leftpad 4 '0' (Nat.toDigits 16 c.toNat)
  else [c]

def quotedText (s : String) : List Char := '"' :: s.toList.flatMap escapedChar ++ ['"']

/-- A string without a text shows the replacement character. -/
def Str.written (s : Str) : List Char := quotedText (s.text?.getD "\ufffd")

def Number.written (n : Number) : List Char :=
  (if n.negative then ['-'] else []) ++ n.whole ++
    (match n.fraction with | none => [] | some f => '.' :: f) ++
    match n.exponent with
    | none => []
    | some (negative, e) => 'e' :: (if negative then '-' :: e else e)

/-- A line break and the indentation of a container's content. -/
def newLine (depth : Nat) : List Char := '\n' :: List.replicate (2 * depth) ' '

mutual

/-- The text of a value inside the given number of containers. -/
def pretty (depth : Nat) : Json → List Char
  | .null => "null".toList
  | .bool b => if b then "true".toList else "false".toList
  | .number n => n.written
  | .string s => s.written
  | .array [] => "[]".toList
  | .array (item :: items) =>
    '[' :: newLine (depth + 1) ++ pretty (depth + 1) item ++ prettyItems (depth + 1) items ++
      newLine depth ++ [']']
  | .object [] => ['{', '}']
  | .object ((name, value) :: members) =>
    '{' :: newLine (depth + 1) ++ name.written ++ ':' :: ' ' :: pretty (depth + 1) value ++
      prettyMembers (depth + 1) members ++ newLine depth ++ ['}']

/-- All items after the first one. -/
def prettyItems (depth : Nat) : List Json → List Char
  | [] => []
  | item :: items => ',' :: newLine depth ++ pretty depth item ++ prettyItems depth items

/-- All members after the first one. -/
def prettyMembers (depth : Nat) : List (Str × Json) → List Char
  | [] => []
  | (name, value) :: members =>
    ',' :: newLine depth ++ name.written ++ ':' :: ' ' :: pretty depth value ++
      prettyMembers depth members

end

end RaceOverlay.Json

namespace RaceOverlay

/-- The text of a document. -/
def Json.prettyText (j : Json) : String := String.ofList (j.pretty 0)

end RaceOverlay
