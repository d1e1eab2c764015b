import RaceOverlay.Json.Token

/-!
# JSON documents

Tokens are put together with a stack of the containers that are still open. A document is one value
and nothing after it.
-/
namespace RaceOverlay

namespace Json

/-- An open container, with what it holds so far, last one first. -/
inductive Frame where
  | array (items : List Json)
  | object (members : List (Str × Json))
  /-- An object in which a name waits for its value. -/
  | member (members : List (Str × Json)) (name : Str)

/-- What may come next. -/
inductive Due where
  | value
  | itemOrEnd
  | nameOrEnd
  | name
  | colon
  /-- A comma, the end of the container, or the end of the document. -/
  | separator

structure Builder where
  frames : List Frame
  due : Due
  /-- The document, once it is complete. -/
  value? : Option Json

namespace Builder

def start : Builder := ⟨[], .value, none⟩

/-- A complete value goes into the innermost container. -/
def put (frames : List Frame) (v : Json) : Option Builder :=
  match frames with
  | [] => some ⟨[], .separator, some v⟩
  | .array items :: rest => some ⟨.array (v :: items) :: rest, .separator, none⟩
  | .member members name :: rest =>
    some ⟨.object ((name, v) :: members) :: rest, .separator, none⟩
  | .object _ :: _ => none

/-- A token that starts a value. -/
def beginValue (frames : List Frame) : Token → Option Builder
  | .openArray => some ⟨.array [] :: frames, .itemOrEnd, none⟩
  | .openObject => some ⟨.object [] :: frames, .nameOrEnd, none⟩
  | .string s => put frames (.string s)
  | .bool b => put frames (.bool b)
  | .null => put frames .null
  | .number n => put frames (.number n)
  | _ => none

/-- The end of the innermost container. -/
def close (frames : List Frame) : Token → Option Builder
  | .closeArray => match frames with
    | .array items :: rest => put rest (.array items.reverse)
    | _ => none
  | .closeObject => match frames with
    | .object members :: rest => put rest (.object members.reverse)
    | _ => none
  | _ => none

/-- A name in the innermost container, which is an object. -/
def beginMember (frames : List Frame) (name : Str) : Option Builder :=
  match frames with
  | .object members :: rest => some ⟨.member members name :: rest, .colon, none⟩
  | _ => none

def step (b : Builder) (token : Token) : Option Builder :=
  match b.due with
  | .value => beginValue b.frames token
  | .itemOrEnd =>
    if token = .closeArray then close b.frames token else beginValue b.frames token
  | .nameOrEnd => match token with
    | .string name => beginMember b.frames name
    | _ => close b.frames token
  | .name => match token with
    | .string name => beginMember b.frames name
    | _ => none
  | .colon => if token = .colon then some { b with due := .value } else none
  | .separator => match token, b.frames with
    | .comma, .array _ :: _ => some { b with due := .value }
    | .comma, .object _ :: _ => some { b with due := .name }
    | _, _ => close b.frames token

end Builder

end Json

/-- The value of a document. -/
def Json.parse? (text : String) : Option Json := do
  let tokens ← Json.tokens? text.toList
  let b ← tokens.foldlM Json.Builder.step Json.Builder.start
  b.value?

end RaceOverlay
