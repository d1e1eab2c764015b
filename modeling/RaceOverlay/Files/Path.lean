import RaceOverlay.Files.Place

/-!
# Paths

A path is read as names between slashes; empty names and single dots mean nothing, but for a dot at
the start and a slash at the start.
-/
namespace RaceOverlay.Path

/-- The parts between slashes: one more than there are slashes. -/
def splitSlashes : List Char → List (List Char)
  | [] => [[]]
  | c :: cs =>
    if c = '/' then [] :: splitSlashes cs
    else match splitSlashes cs with
      | [] => [[c]]
      | name :: rest => (c :: name) :: rest

/-- Whether a part of a path names nothing. -/
def isIdle (part : List Char) : Bool := part == [] || part == ['.']

/-- The names that a path goes through. -/
def names (path : String) : List String :=
  ((splitSlashes path.toList).filter fun part => !isIdle part).map String.ofList

/-- A path starts at the root if a slash is its first character. -/
def start (path : String) : Place :=
  if path.toList.head? == some '/' then .root else .working

/-- The most bytes of a name. -/
def nameLimit : Nat := 255

/-- Every path has fewer bytes. -/
def sizeLimit : Nat := 4096

/-- No name holds a NUL. -/
def hasNul (path : String) : Bool := path.toList.any fun c => c.toNat == 0

/-- Whether the path can only name a directory: its last part names nothing. -/
def namesDirectory (path : String) : Bool :=
  match (splitSlashes path.toList).getLast? with
  | some part => isIdle part
  | none => true

/-- The parts up to the last one that names something. -/
def dropIdle (parts : List (List Char)) : List (List Char) :=
  (parts.reverse.dropWhile isIdle).reverse

/-- The path without its last name, if it has one. -/
def parent? (path : String) : Option String :=
  let parts := splitSlashes path.toList
  let (start, body) := match parts with
    | [] :: rest => ([['/']], rest)
    | ['.'] :: rest => ([['.']], rest)
    | _ => ([], parts)
  match dropIdle body with
  | [] => if start == [['.']] then some "" else none
  | named =>
    let above := dropIdle named.dropLast
    let body := ['/'].intercalate above
    some <| String.ofList <| match start, above with
      | [['/']], _ => '/' :: body
      | [['.']], [] => ['.']
      | [['.']], _ => '.' :: '/' :: body
      | _, _ => body

end RaceOverlay.Path
