import RaceOverlay.Number.Width

/-!
# Token domains

A domain is a closed table of named fields of one kind of thing. The slot of a field is its place in
the table: templates are written with names and rendered by slot. Names are words, so that no name
can be taken for the number of a slot.
-/
namespace RaceOverlay

/-- A lower-case letter, and lower-case letters, digits and underscores after it. -/
def isWord : List Char → Bool
  | [] => false
  | c :: cs => c.isLower && cs.all fun d => d.isLower || d.isDigit || d == '_'

class TokenDomain (F : Type) [DecidableEq F] where
  /-- The table; new fields are only ever added at its end. -/
  all : List F
  name : F → String
  /-- Whether columns of external data follow the table. -/
  hasColumns : Bool
  mem_all : ∀ f, f ∈ all
  nodup_all : all.Nodup
  name_injective : ∀ f g, name f = name g → f = g
  name_word : ∀ f, isWord (name f).toList = true
  /-- Every slot of the table has a number of 64 bits. -/
  length_all_le : all.length ≤ Text.maxUnsigned64

namespace TokenDomain

theorem eq_of_nodup_map {α β : Type} {f : α → β} {xs : List α} (h : (xs.map f).Nodup)
    {a b : α} (ha : a ∈ xs) (hb : b ∈ xs) (he : f a = f b) : a = b := by
  induction xs with
  | nil => cases ha
  | cons x xs ih =>
    rw [List.map_cons, List.nodup_cons] at h
    rcases List.mem_cons.1 ha with rfl | ha'
    · rcases List.mem_cons.1 hb with rfl | hb'
      · rfl
      · exact absurd (he ▸ List.mem_map_of_mem hb') h.1
    · rcases List.mem_cons.1 hb with rfl | hb'
      · exact absurd (he ▸ List.mem_map_of_mem ha') h.1
      · exact ih h.2 ha' hb'

variable {F : Type} [DecidableEq F] [TokenDomain F]

def count (F : Type) [DecidableEq F] [TokenDomain F] : Nat := (all : List F).length

def slot (f : F) : Nat := (all : List F).idxOf f

def ofName? (name : String) : Option F :=
  (all : List F).find? fun f => TokenDomain.name f == name

/-- The slot of the column with the given index: columns follow the table. Slots have numbers of 64
bits, so that an index too great for that falls on a slot of the table. -/
def columnSlot (F : Type) [DecidableEq F] [TokenDomain F] (column : Nat) : Nat :=
  wrapped64 (count F + column)

theorem columnSlot_le (column : Nat) : columnSlot F column ≤ Text.maxUnsigned64 := wrapped64_le _

theorem slot_lt (f : F) : slot f < count F := List.idxOf_lt_length_iff.2 (mem_all f)

theorem getElem?_slot (f : F) : (all : List F)[slot f]? = some f := by
  have h := slot_lt f
  unfold count at h
  rw [List.getElem?_eq_getElem h]
  exact congrArg some (List.getElem_idxOf h)

theorem ofName?_eq_some {s : String} {f : F} : ofName? s = some f ↔ name f = s := by
  constructor
  · intro h
    simpa using List.find?_some h
  · rintro rfl
    cases h : ofName? (F := F) (name f) with
    | none =>
      have := List.find?_eq_none.1 h f (mem_all f)
      simp at this
    | some g =>
      have hg : name g = name f := by simpa using List.find?_some h
      rw [name_injective g f hg]

end TokenDomain

end RaceOverlay
