import RaceOverlay.Json.Number

/-!
# JSON tokens

A text is read character by character. Between tokens stand space, tab, line feed and carriage
return; a word is a run of other characters that are no punctuation, and must be a literal or a
number.
-/
namespace RaceOverlay.Json

inductive Token where
  | openArray
  | closeArray
  | openObject
  | closeObject
  | comma
  | colon
  | string (value : Str)
  | bool (value : Bool)
  | null
  | number (value : Number)
  deriving DecidableEq

/-- A string in progress: its code units so far, last one first. Escapes of surrogates stand as
their own values, which no character has. -/
structure Unread where
  units : List Nat
  escaped : Bool

inductive Place where
  /-- Between tokens. -/
  | gap
  /-- In a word, with its characters so far, last one first. -/
  | word (chars : List Char)
  | string (s : Unread)
  /-- After a backslash. -/
  | escape (s : Unread)
  /-- In a `\u` escape, with the number of digits still due and the value of those read. -/
  | code (s : Unread) (due value : Nat)

structure Scanner where
  /-- Last one first. -/
  tokens : List Token
  place : Place

def isSpace (c : Char) : Bool := c == ' ' || c == '\n' || c == '\t' || c == '\r'

def punctuation? (c : Char) : Option Token :=
  if c = '[' then some .openArray
  else if c = ']' then some .closeArray
  else if c = '{' then some .openObject
  else if c = '}' then some .closeObject
  else if c = ',' then some .comma
  else if c = ':' then some .colon
  else none

def wordToken? (chars : List Char) : Option Token :=
  if chars = "true".toList then some (.bool true)
  else if chars = "false".toList then some (.bool false)
  else if chars = "null".toList then some .null
  else (Number.ofChars? chars).map .number

/-- The character of a one-letter escape. -/
def shortEscape? (c : Char) : Option Char :=
  if c = '"' ∨ c = '\\' ∨ c = '/' then some c
  else if c = 'b' then some (Char.ofNat 8)
  else if c = 'f' then some (Char.ofNat 12)
  else if c = 'n' then some '\n'
  else if c = 'r' then some '\r'
  else if c = 't' then some '\t'
  else none

def hexDigit? (c : Char) : Option Nat :=
  if c.isDigit then some (c.toNat - '0'.toNat)
  else if 'a' ≤ c ∧ c ≤ 'f' then some (c.toNat - 'a'.toNat + 10)
  else if 'A' ≤ c ∧ c ≤ 'F' then some (c.toNat - 'A'.toNat + 10)
  else none

def isHighSurrogate (n : Nat) : Bool := 0xD800 ≤ n && n < 0xDC00

def isLowSurrogate (n : Nat) : Bool := 0xDC00 ≤ n && n < 0xE000

/-- The characters of code units: a surrogate is one half of a character and needs its other half
right beside it. -/
def joinUnits? : List Nat → Option (List Char)
  | [] => some []
  | [n] => if isHighSurrogate n || isLowSurrogate n then none else some [Char.ofNat n]
  | n :: m :: rest =>
    if isHighSurrogate n && isLowSurrogate m then
      (joinUnits? rest).map (Char.ofNat (0x10000 + (n - 0xD800) * 0x400 + (m - 0xDC00)) :: ·)
    else if isHighSurrogate n || isLowSurrogate n then none
    else (joinUnits? (m :: rest)).map (Char.ofNat n :: ·)

def Unread.str (s : Unread) : Str :=
  ⟨(joinUnits? s.units.reverse).map String.ofList, s.escaped⟩

namespace Scanner

def start : Scanner := ⟨[], .gap⟩

/-- A character between tokens. -/
def begin (tokens : List Token) (c : Char) : Scanner :=
  if isSpace c then ⟨tokens, .gap⟩
  else match punctuation? c with
    | some token => ⟨token :: tokens, .gap⟩
    | none => if c = '"' then ⟨tokens, .string ⟨[], false⟩⟩ else ⟨tokens, .word [c]⟩

def step (s : Scanner) (c : Char) : Option Scanner :=
  match s.place with
  | .gap => some (begin s.tokens c)
  | .word chars =>
    if isSpace c || (punctuation? c).isSome || c == '"' then
      (wordToken? chars.reverse).map fun token => begin (token :: s.tokens) c
    else some { s with place := .word (c :: chars) }
  | .string u =>
    if c = '"' then some ⟨.string u.str :: s.tokens, .gap⟩
    else if c = '\\' then some { s with place := .escape { u with escaped := true } }
    else if c.toNat < 0x20 then none
    else some { s with place := .string { u with units := c.toNat :: u.units } }
  | .escape u =>
    if c = 'u' then some { s with place := .code u 4 0 }
    else (shortEscape? c).map fun e =>
      { s with place := .string { u with units := e.toNat :: u.units } }
  | .code u due value =>
    (hexDigit? c).map fun d =>
      let value := 16 * value + d
      if due ≤ 1 then { s with place := .string { u with units := value :: u.units } }
      else { s with place := .code u (due - 1) value }

/-- The tokens of a text that ends here. -/
def finish (s : Scanner) : Option (List Token) :=
  match s.place with
  | .gap => some s.tokens.reverse
  | .word chars => (wordToken? chars.reverse).map fun token => (token :: s.tokens).reverse
  | _ => none

end Scanner

/-- The tokens of a text. -/
def tokens? (cs : List Char) : Option (List Token) :=
  (cs.foldlM Scanner.step Scanner.start).bind Scanner.finish

end RaceOverlay.Json
