import RaceOverlay.Text.Numeral

/-!
# JSON values

Documents keep what decoding needs and no more: numbers as they were written, object members in
their order with repeated names, and for each string whether it was written with escapes.
-/
namespace RaceOverlay

namespace Json

/-- A number as written, without blanks: `-12.50e+3`. -/
structure Number where
  negative : Bool
  whole : List Char
  fraction : Option (List Char)
  /-- Whether the exponent is negative, and its digits. -/
  exponent : Option (Bool × List Char)
  deriving DecidableEq

/-- A string. It has no text if an escape in it is one half of a surrogate pair. -/
structure Str where
  text? : Option String
  escaped : Bool
  deriving DecidableEq

end Json

inductive Json where
  | null
  | bool (value : Bool)
  | number (value : Json.Number)
  | string (value : Json.Str)
  | array (items : List Json)
  | object (members : List (Json.Str × Json))

namespace Json

/-- A string that is written as it is. -/
def ofText (s : String) : Json := .string ⟨some s, false⟩

def ofInt (n : Int) : Json := .number ⟨decide (n < 0), Text.decimal n.natAbs, none, none⟩

def ofMembers (members : List (String × Json)) : Json :=
  .object (members.map fun m => (⟨some m.1, false⟩, m.2))

end Json

end RaceOverlay
