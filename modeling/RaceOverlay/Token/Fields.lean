import RaceOverlay.Token.Domain

/-!
# Field values

One text per field of a domain, and the texts of the external columns that follow the table.
-/
namespace RaceOverlay

structure Fields (F : Type) where
  text : F → String
  columns : List String

namespace Fields

variable {F : Type} [DecidableEq F] [TokenDomain F]

/-- Every field empty, and no columns. -/
def blank (F : Type) : Fields F := ⟨fun _ => "", []⟩

def set (v : Fields F) (field : F) (text : String) : Fields F :=
  { v with text := fun f => if f = field then text else v.text f }

/-- The text at a slot: a field of the table, or a column behind it. -/
def slot? (v : Fields F) (slot : Nat) : Option String :=
  match (TokenDomain.all : List F)[slot]? with
  | some f => some (v.text f)
  | none => v.columns[slot - TokenDomain.count F]?

/-- The number of slots that hold a text. -/
def size (v : Fields F) : Nat := TokenDomain.count F + v.columns.length

theorem slot?_slot (v : Fields F) (f : F) : v.slot? (TokenDomain.slot f) = some (v.text f) := by
  rw [slot?, TokenDomain.getElem?_slot]

end Fields

end RaceOverlay
