/-!
# Stable sorting

Insertion from the left: each element moves in front of the placed elements that it is less than,
counted from the back, and stops at the first one that it is not less than. So equal elements keep
their order, and the result is fixed even where the order is not total.
-/
namespace RaceOverlay.Order

variable {α : Type}

/-- Inserts into a list that runs from the greatest element to the least. -/
def insertBack (lt : α → α → Bool) (x : α) : List α → List α
  | [] => [x]
  | y :: ys => if lt x y then y :: insertBack lt x ys else x :: y :: ys

/-- The elements in ascending order, equal ones in the order of the list. -/
def stableSort (lt : α → α → Bool) (xs : List α) : List α :=
  (xs.foldl (fun placed x => insertBack lt x placed) []).reverse

theorem insertBack_perm (lt : α → α → Bool) (x : α) (ys : List α) :
    (insertBack lt x ys).Perm (x :: ys) := by
  induction ys with
  | nil => exact .refl _
  | cons y ys ih =>
    simp only [insertBack]
    split
    · exact (ih.cons y).trans (.swap x y ys)
    · exact .refl _

private theorem foldl_insertBack_perm (lt : α → α → Bool) (xs placed : List α) :
    (xs.foldl (fun placed x => insertBack lt x placed) placed).Perm (xs ++ placed) := by
  induction xs generalizing placed with
  | nil => exact .refl _
  | cons x xs ih =>
    exact (ih _).trans (((insertBack_perm lt x placed).append_left xs).trans
      List.perm_middle)

theorem stableSort_perm (lt : α → α → Bool) (xs : List α) : (stableSort lt xs).Perm xs := by
  have h := foldl_insertBack_perm lt xs []
  rw [List.append_nil] at h
  exact (List.reverse_perm _).trans h

end RaceOverlay.Order
