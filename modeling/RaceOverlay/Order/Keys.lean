/-!
# Replacing by key

An element takes the place of the one with its key, so keys stay pairwise different.
-/
namespace RaceOverlay.Order

variable {α κ : Type} [BEq κ] [LawfulBEq κ] {key : α → κ} {xs : List α}

theorem nodup_keys_cons (h : (xs.map key).Nodup) (x : α) :
    ((x :: xs.filter fun y => key y != key x).map key).Nodup := by
  rw [List.map_cons, List.nodup_cons]
  constructor
  · intro hx
    obtain ⟨y, hy, hkey⟩ := List.mem_map.1 hx
    exact bne_iff_ne.1 (List.mem_filter.1 hy).2 hkey
  · exact h.sublist (List.filter_sublist.map key)

theorem nodup_keys_concat (h : (xs.map key).Nodup) (x : α) :
    ((xs.filter (fun y => key y != key x) ++ [x]).map key).Nodup :=
  ((List.perm_append_singleton x _).map key).nodup_iff.2 (nodup_keys_cons h x)

/-- Entries of another key stay where they are. -/
theorem lookup_filter_of_ne {β : Type} {k other : κ} (h : other ≠ k) (xs : List (κ × β)) :
    (xs.filter fun y => y.1 != k).lookup other = xs.lookup other := by
  induction xs with
  | nil => rfl
  | cons x xs ih =>
    by_cases hx : x.1 = k
    · have hother : (other == x.1) = false := beq_false_of_ne fun he => h (he.trans hx)
      rw [List.filter_cons_of_neg (by simpa using hx), ih, List.lookup_cons, hother]
    · rw [List.filter_cons_of_pos (by simpa using hx), List.lookup_cons, List.lookup_cons, ih]

end RaceOverlay.Order
