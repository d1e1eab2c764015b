import Mathlib.Algebra.GroupWithZero.Nat
import Mathlib.Algebra.Order.BigOperators.Group.List
import Mathlib.Algebra.Order.Group.Nat
import RaceOverlay.Proofs.Closings
import RaceOverlay.Proofs.NamedRendering
import RaceOverlay.Token.Standing

/-!
# Columns without slots of their own

The columns follow the table, but slots have numbers of 64 bits. So the last columns that a template
can name, as many as the table is long, share the slots of its fields: where such a column is
missing, its label shows the field. All other labels show what their templates name.
-/
namespace RaceOverlay

namespace Fields

open Text (maxUnsigned64)

section Marked

variable {F : Type} [DecidableEq F]

variable (f : F)

end Marked

variable {F : Type} [DecidableEq F] [TokenDomain F] {n : Nat}

end Fields

namespace Reference

open Text (maxUnsigned64)

variable {F : Type} [DecidableEq F] [TokenDomain F] {r : Reference F} {n : Nat} {cs : List Char}

section Columns

variable {fields : Fields F} {column? other? : Nat → Option String}

end Columns

end Reference

namespace Reading

open Template (part splitBar splitBar_cases)
open Text (maxUnsigned64)

section Fragments

variable {F : Type} [DecidableEq F] [TokenDomain F] {fields : Fields F}
variable {column? other? : Nat → Option String} {inner : List Char} {n : Nat}

end Fragments

section Counts

variable {c : Char}

end Counts

section Texts

variable {F : Type} [DecidableEq F] [TokenDomain F]

variable {cs : List Char} {p : Piece}

end Texts

section Labels

variable (F : Type) [DecidableEq F] [TokenDomain F]

end Labels

end Reading

end RaceOverlay
