import RaceOverlay.Json.Tree

/-!
# Decoding JSON values

Decoders of the types that documents are made of. A record is an object with the names of its
fields, or an array of its fields in their order. Names that are not known are passed over; a known
name may not occur twice. Only optional values may be null.
-/
namespace RaceOverlay

inductive DecodeError where
  /-- The text is no JSON document. -/
  | malformed
  /-- The value has another type, or lies outside the range of its type. -/
  | mismatch (expected : String)
  | missingField (name : String)
  | repeatedField (name : String)
  | unknownName (name : String)
  deriving DecidableEq

def DecodeError.message : DecodeError → String
  | .malformed => "malformed document"
  | .mismatch expected => "expected " ++ expected
  | .missingField name => "missing field " ++ name
  | .repeatedField name => "repeated field " ++ name
  | .unknownName name => "unknown name " ++ name

abbrev Decoder (α : Type) := Json → Except DecodeError α

namespace Json

def Str.decode (s : Str) : Except DecodeError String :=
  match s.text? with
  | some text => .ok text
  | none => .error (.mismatch "text")

def text : Decoder String
  | .string s => s.decode
  | _ => .error (.mismatch "text")

def flag : Decoder Bool
  | .bool b => .ok b
  | _ => .error (.mismatch "a boolean")

/-- An integer in a closed range, written without fraction and exponent. -/
def integer (lo hi : Int) : Decoder Int
  | .number n => match n.int? with
    | some v => if lo ≤ v ∧ v ≤ hi then .ok v else .error (.mismatch "an integer in range")
    | none => .error (.mismatch "an integer")
  | _ => .error (.mismatch "an integer")

def signed32 : Decoder Int := integer Text.minSigned32 Text.maxSigned32

def unsigned64 : Decoder Nat := fun j =>
  (integer 0 (Int.ofNat Text.maxUnsigned64) j).map Int.toNat

def float : Decoder Float
  | .number n => match n.float? with
    | some x => .ok x
    | none => .error (.mismatch "a number in range")
  | _ => .error (.mismatch "a number")

def list {α : Type} (item : Decoder α) : Decoder (List α)
  | .array items => items.mapM item
  | _ => .error (.mismatch "an array")

def nullable {α : Type} (value : Decoder α) : Decoder (Option α)
  | .null => .ok none
  | j => (value j).map some

/-- One of the given names, as a text or as the only name of an object whose value is null. -/
def choice {α : Type} (names : List (String × α)) : Decoder α := fun j => do
  let name ← match j with
    | .string s => s.decode
    | .object [(s, .null)] => s.decode
    | _ => .error (.mismatch "a name")
  match names.lookup name with
  | some a => .ok a
  | none => .error (.unknownName name)

/-- The members of an object, last one first: the first entry of a name is the one that counts. -/
def table {κ α : Type} (key : Str → Except DecodeError κ) (value : Decoder α) :
    Decoder (List (κ × α))
  | .object members => do
    let entries ← members.mapM fun m => do return (← key m.1, ← value m.2)
    return entries.reverse
  | _ => .error (.mismatch "an object")

/-- A name that is an integer as a document writes it, without escapes. -/
def integerKey (s : Str) : Except DecodeError Int := do
  let text ← s.decode
  let number := if s.escaped then none else Number.ofChars? text.toList
  match number with
  | some n => signed32 (.number n)
  | none => .error (.mismatch "an integer name")

/-- The fields of a record that are present. -/
abbrev Record := List (String × Json)

/-- The members of an object with one of the given names, each at most once. -/
def memberFields (names : List String) (members : List (Str × Json)) :
    Except DecodeError Record :=
  members.foldlM (fun fields m => do
    let name ← m.1.decode
    if names.contains name then
      if (fields.lookup name).isSome then throw (.repeatedField name)
      else return (name, m.2) :: fields
    else return fields) []

def record (names : List String) : Json → Except DecodeError Record
  | .object members => memberFields names members
  | .array items =>
    if items.length ≤ names.length then .ok (names.zip items)
    else .error (.mismatch "a shorter array")
  | _ => .error (.mismatch "a record")

namespace Record

/-- A field with a default. -/
def field {α : Type} (r : Record) (name : String) (value : Decoder α) (default : α) :
    Except DecodeError α :=
  match r.lookup name with
  | some j => value j
  | none => .ok default

/-- A field that must be present. -/
def required {α : Type} (r : Record) (name : String) (value : Decoder α) :
    Except DecodeError α :=
  match r.lookup name with
  | some j => value j
  | none => .error (.missingField name)

end Record

/-- Decodes the text of a document. -/
def decodeText {α : Type} (value : Decoder α) (text : String) : Except DecodeError α :=
  match Json.parse? text with
  | some j => value j
  | none => .error .malformed

end Json

end RaceOverlay
