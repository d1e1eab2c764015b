import RaceOverlay.Proofs.Kept
import RaceOverlay.Proofs.Scan
import RaceOverlay.Template.Render

/-!
# Reading a template by names

The direct meaning of a template, without compiling: names, numbers and external columns are looked
up where they stand. What a column holds is left open, since rendering looks for it at its slot.
Fragments whose parts start with a plus are left aside: only slot forms allow a sign.
-/
namespace RaceOverlay

section Columns

variable {F : Type} [DecidableEq F] [TokenDomain F]

/-- The column with the given index. -/
def Fields.column? (v : Fields F) (n : Nat) : Option String := v.columns[n]?

/-- Empty texts in all fields and in so many columns. -/
def Fields.filled (F : Type) (columns : Nat) : Fields F :=
  ⟨fun _ => "", List.replicate columns ""⟩

theorem Fields.isSome_slot?_filled {n columns : Nat} (h : n < columns) :
    ((Fields.filled F columns).slot? n).isSome = true := by
  unfold slot? filled
  split
  · rfl
  · rw [List.getElem?_replicate, if_pos (by omega)]
    rfl

end Columns

/-- What one side of a fragment names. Slots are numbered with 64 bits, so that a greater number is
nothing known. -/
inductive Reference (F : Type) where
  | field (f : F)
  | slot (n : Nat)
  | column (n : Nat)
  /-- An external reference to no column. -/
  | malformed
  | unknown

namespace Reference

/-- A name, else a number, else an external reference. -/
def ofPart (F : Type) [DecidableEq F] [TokenDomain F] (cs : List Char) : Reference F :=
  match (TokenDomain.ofName? (String.ofList cs) : Option F) with
  | some f => .field f
  | none =>
    match Text.digits? cs with
    | some n => if n ≤ Text.maxUnsigned64 then .slot n else .unknown
    | none =>
      if "external".toList.isPrefixOf cs then
        if TokenDomain.hasColumns F then
          match ("external:".toList.isPrefixOf? cs).bind Text.unsigned64? with
          | some n => .column n
          | none => .malformed
        else .malformed
      else .unknown

variable {F : Type} [DecidableEq F] [TokenDomain F]

variable (fields : Fields F) (column? : Nat → Option String)

/-- The text of a fragment without a fallback. A missing column is empty. -/
def alone : Reference F → Option String
  | .field f => some (fields.text f)
  | .slot n => fields.slot? n
  | .column n => some ((column? n).getD "")
  | .malformed | .unknown => none

/-- The text of a fragment with an empty fallback. -/
def orEmpty : Reference F → Option String
  | .field f => some (fields.text f)
  | .slot n => some ((fields.slot? n).getD "")
  | .column n => some ((column? n).getD "")
  | .malformed | .unknown => none

/-- The text of a fragment with a fallback. It takes the place of what is missing or malformed, but
not of what is unknown. -/
def orElse (fallback : Option String) : Reference F → Option String
  | .field f => some (fields.text f)
  | .slot n => (fields.slot? n).or fallback
  | .column n => (column? n).or fallback
  | .malformed => fallback
  | .unknown => none

end Reference

namespace Reading

variable {F : Type} [DecidableEq F] [TokenDomain F]

/-- The text of a fragment, if its parts name something. A fallback is a field or a slot. -/
def fragmentText? (fields : Fields F) (column? : Nat → Option String) (inner : List Char) :
    Option String :=
  match Template.splitBar inner with
  | (primary, none) => (Reference.ofPart F primary).alone fields column?
  | (primary, some []) => (Reference.ofPart F primary).orEmpty fields column?
  | (primary, some fallback) =>
    match Reference.ofPart F fallback with
    | .field f => (Reference.ofPart F primary).orElse fields column? (some (fields.text f))
    | .slot n => (Reference.ofPart F primary).orElse fields column? (fields.slot? n)
    | _ => none

/-- The text of a template that holds no calls. -/
def text (fields : Fields F) (column? : Nat → Option String) (cs : List Char) : String :=
  match scan (fragmentText? fields column?) none cs with
  | some t => String.ofList (breakLines t)
  | none => brokenText

/-- Whether a fragment calls one of the scripts. -/
def isCall (scripts : List String) (inner : List Char) : Bool :=
  scripts.any fun script => (Call.opening script).isPrefixOf inner

/-- No part of the fragment starts with a plus. -/
def NoPlus (inner : List Char) : Prop :=
  (Template.splitBar inner).1.head? ≠ some '+' ∧
    ∀ fallback, (Template.splitBar inner).2 = some fallback → fallback.head? ≠ some '+'

end Reading

namespace Reference

open Template (part Part)

variable {F : Type} [DecidableEq F] [TokenDomain F]

end Reference

namespace Format

open Text (decimal maxUnsigned64 unsigned64? unsigned64?_decimal not_mem_decimal)
open Template (splitBar splitBar_of_not_mem splitBar_append)

variable (lookup : Nat → Option String)

theorem slotText?_of_none {inner primary : List Char} (h : splitBar inner = (primary, none)) :
    slotText? lookup inner = (unsigned64? primary).bind lookup := by
  rw [slotText?, h]

theorem slotText?_of_empty {inner primary : List Char} (h : splitBar inner = (primary, some [])) :
    slotText? lookup inner = (unsigned64? primary).map fun n => (lookup n).getD "" := by
  rw [slotText?, h]

theorem slotText?_of_some {inner primary fallback : List Char}
    (h : splitBar inner = (primary, some fallback)) (hne : fallback ≠ []) :
    slotText? lookup inner = (unsigned64? primary).bind fun n =>
      (unsigned64? fallback).bind fun m => (lookup n).or (lookup m) := by
  obtain ⟨c, cs, rfl⟩ := List.exists_cons_of_ne_nil hne
  rw [slotText?, h]
  simp only [Option.bind_eq_bind, Option.orElse_eq_orElse, Option.orElse_eq_or]

theorem slotText?_decimal {n : Nat} (hn : n ≤ maxUnsigned64) :
    slotText? lookup (decimal n) = lookup n := by
  rw [slotText?_of_none lookup (splitBar_of_not_mem (not_mem_decimal (by decide) n)),
    unsigned64?_decimal, if_pos hn]
  rfl

theorem slotText?_decimal_bar (n : Nat) :
    slotText? lookup (decimal n ++ ['|']) =
      if n ≤ maxUnsigned64 then some ((lookup n).getD "") else none := by
  rw [slotText?_of_empty lookup (splitBar_append (not_mem_decimal (by decide) n) []),
    unsigned64?_decimal]
  split <;> rfl

theorem slotText?_decimal_bar_decimal (n : Nat) {m : Nat} (hm : m ≤ maxUnsigned64) :
    slotText? lookup (decimal n ++ '|' :: decimal m) =
      if n ≤ maxUnsigned64 then (lookup n).or (lookup m) else none := by
  rw [slotText?_of_some lookup (splitBar_append (not_mem_decimal (by decide) n) _)
    (Text.decimal_ne_nil m), unsigned64?_decimal, unsigned64?_decimal, if_pos hm]
  split <;> rfl

end Format

namespace Reference

open Template (part Part resolved splitBar)
open Format (slotText?)
open Text (decimal maxUnsigned64 unsigned64?)

variable {F : Type} [DecidableEq F] [TokenDomain F]

/-- Without a plus, only what compiles to a slot can be read as the number of one. -/
theorem unsigned64?_eq_none {cs : List Char} (hplus : cs.head? ≠ some '+')
    (hp : ∀ n, part F cs ≠ .slot n) : unsigned64? cs = none := by
  rw [Text.unsigned64?_of_head hplus]
  cases hd : Text.digits? cs with
  | none => rfl
  | some n =>
    have hall : Text.isDigits cs = true := by
      cases hi : Text.isDigits cs with
      | true => rfl
      | false =>
        rw [Text.digits?_eq_none_iff.2 hi] at hd
        cases hd
    have hpart := Template.part_of_isDigits (F := F) hall
    rw [hd] at hpart
    dsimp only at hpart
    split at hpart
    · exact absurd hpart (hp n)
    · simpa using Nat.lt_of_not_le ‹_›

variable (fields : Fields F) {inner primary s : List Char} {r : Reference F} {p : Part}

end Reference

end RaceOverlay
