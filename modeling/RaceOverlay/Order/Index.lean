import RaceOverlay.Order.Stable

/-!
# Sorted indices

The indices of a list in the order of its elements. Descending order is not the reverse of ascending
order: equal elements keep their order in both.
-/
namespace RaceOverlay.Order

inductive Direction where
  | ascending
  | descending
  deriving DecidableEq

/-- Whether the first element comes strictly before the second. -/
def Direction.before {α : Type} (lt : α → α → Bool) : Direction → α → α → Bool
  | .ascending, x, y => lt x y
  | .descending, x, y => lt y x

def sortedIndices {α : Type} (lt : α → α → Bool) (direction : Direction) (xs : List α) :
    List Nat :=
  (stableSort (fun a b => direction.before lt a.1 b.1) xs.zipIdx).map (·.2)

end RaceOverlay.Order
