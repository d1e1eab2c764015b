/-!
# Least elements

The least element of a list by a key; of several least ones it is the first.
-/
namespace RaceOverlay.Order

variable {α : Type}

/-- The first element that no other one is less than. -/
def least? (key : α → Int) : List α → Option α
  | [] => none
  | x :: xs =>
    match least? key xs with
    | none => some x
    | some y => if key y < key x then some y else some x

theorem least?_eq_none_iff (key : α → Int) (xs : List α) : least? key xs = none ↔ xs = [] := by
  cases xs with
  | nil => simp [least?]
  | cons x xs => cases h : least? key xs <;> simp [least?, h]; split <;> simp

theorem mem_of_least? {key : α → Int} {xs : List α} {x : α} (h : least? key xs = some x) :
    x ∈ xs := by
  induction xs generalizing x with
  | nil => simp [least?] at h
  | cons y ys ih =>
    cases hs : least? key ys with
    | none => simp_all [least?]
    | some z =>
      rw [least?, hs] at h
      dsimp only at h
      split at h
      · exact List.mem_cons_of_mem _ (Option.some.inj h ▸ ih hs)
      · exact Option.some.inj h ▸ List.mem_cons_self

end RaceOverlay.Order
