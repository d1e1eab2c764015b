import RaceOverlay.Journal
import RaceOverlay.Number.Rounding
import RaceOverlay.Template.Piece
import RaceOverlay.Text.Numeral
import RaceOverlay.Token.Domain

/-!
# Compiled labels

Compiling replaces the names in the fragments of a template by slots. It never fails: a call of an
unknown script and an external reference to no column are cut out and reported, and a fragment that
names nothing known stays as it is, so that rendering can flag it.
-/
namespace RaceOverlay

/-- A script and the rest of the text that calls it. -/
structure Call where
  script : String
  method : String
  deriving DecidableEq

/-- The text before the method of a call of the given script. -/
def Call.opening (script : String) : List Char := "script:".toList ++ script.toList ++ [':']

/-- The fragment that makes the call, without its braces. -/
def Call.inner (c : Call) : List Char := Call.opening c.script ++ c.method.toList

/-- The fragment that makes the call. -/
def Call.placeholder (c : Call) : List Char := (Piece.fragment c.inner).source

namespace Template

/-- What one side of a fragment refers to. -/
inductive Part where
  | slot (n : Nat)
  /-- The slot of an external column. -/
  | column (n : Nat)
  /-- An external reference to no column. -/
  | malformed
  | unknown
  deriving DecidableEq

/-- A domain without columns has no external references that are well formed. -/
def externalPart (F : Type) [DecidableEq F] [TokenDomain F] (part : List Char) : Part :=
  if TokenDomain.hasColumns F then
    match ("external:".toList.isPrefixOf? part).bind Text.unsigned64? with
    | some n => .column (TokenDomain.columnSlot F n)
    | none => .malformed
  else .malformed

/-- Names of fields come first, then slot numbers in ASCII digits, then external references. -/
def part (F : Type) [DecidableEq F] [TokenDomain F] (text : List Char) : Part :=
  match (TokenDomain.ofName? (String.ofList text) : Option F) with
  | some field => .slot (TokenDomain.slot field)
  | none =>
    match Text.digits? text with
    | some n => if n ≤ Text.maxUnsigned64 then .slot n else .unknown
    | none => if "external".toList.isPrefixOf text then externalPart F text else .unknown

/-- The parts before and after the first bar. -/
def splitBar : List Char → List Char × Option (List Char)
  | [] => ([], none)
  | '|' :: rest => ([], some rest)
  | c :: rest => (c :: (splitBar rest).1, (splitBar rest).2)

/-- What becomes of a piece of a template. -/
inductive Outcome where
  | keep (piece : Piece)
  | call (c : Call)
  | drop (e : Event)
  deriving DecidableEq

namespace Outcome

def source : Outcome → List Char
  | .keep piece => piece.source
  | .call c => c.placeholder
  | .drop _ => []

def call? : Outcome → Option Call
  | .call c => some c
  | _ => none

def event? : Outcome → Option Event
  | .drop e => some e
  | _ => none

end Outcome

/-- The first script in the order of the names whose call the fragment is. -/
def findCall? (scripts : List String) (inner : List Char) : Option Call :=
  scripts.findSome? fun script =>
    ((Call.opening script).isPrefixOf? inner).map fun method => ⟨script, String.ofList method⟩

/-- The slot form of a resolved primary part, with the slot form of the fallback behind a bar. An
external column without a fallback shows nothing where it is missing. -/
def resolved (inner : List Char) (fallback : Option (List Char)) : Part → Outcome
  | .slot n =>
    match fallback with
    | none => .keep (.fragment (Text.decimal n))
    | some f => .keep (.fragment (Text.decimal n ++ '|' :: f))
  | .column n => .keep (.fragment (Text.decimal n ++ '|' :: fallback.getD []))
  | .malformed =>
    match fallback with
    | some (c :: f) => .keep (.fragment (c :: f))
    | _ => .drop (.referenceRemoved (String.ofList inner))
  | .unknown => .keep (.fragment inner)

/-- A fallback that is no slot leaves the whole fragment as it is. -/
def token (F : Type) [DecidableEq F] [TokenDomain F] (inner : List Char) : Outcome :=
  match splitBar inner with
  | (primary, none) => resolved inner none (part F primary)
  | (primary, some []) => resolved inner (some []) (part F primary)
  | (primary, some fallback) =>
    match part F fallback with
    | .slot n => resolved inner (some (Text.decimal n)) (part F primary)
    | _ => .keep (.fragment inner)

/-- Fragments that start like a script call are nothing else. -/
def fragment (F : Type) [DecidableEq F] [TokenDomain F] (scripts : List String)
    (inner : List Char) : Outcome :=
  if "script".toList.isPrefixOf inner then
    match findCall? scripts inner with
    | some c => .call c
    | none => .drop (.callRemoved (String.ofList inner))
  else token F inner

/-- Only fragments change. -/
def outcome (F : Type) [DecidableEq F] [TokenDomain F] (scripts : List String) : Piece → Outcome
  | .fragment inner => fragment F scripts inner
  | piece => .keep piece

def outcomes (F : Type) [DecidableEq F] [TokenDomain F] (scripts : List String)
    (source : List Char) : List Outcome :=
  (pieces source).map (outcome F scripts)

end Template

/-- A template in slot form, with the script calls that it makes, each listed once. -/
structure Label where
  source : String
  format : String
  calls : List Call
  rounding : Rounding
  uppercase : Bool
  deriving DecidableEq

/-- Compiles a template for a domain and reports what was cut out, in the order of the text. -/
def Label.compile (F : Type) [DecidableEq F] [TokenDomain F] (scripts : List String)
    (source : String) (rounding : Rounding) (uppercase : Bool) : Label × List Event :=
  let outcomes := Template.outcomes F scripts source.toList
  ({ source
     format := String.ofList (outcomes.flatMap Template.Outcome.source)
     calls := (outcomes.filterMap Template.Outcome.call?).eraseDups
     rounding
     uppercase },
   outcomes.filterMap Template.Outcome.event?)

end RaceOverlay
