import Mathlib.Data.List.Nodup
import RaceOverlay.Proofs.StableSorting

/-!
# What different keys give

Where the elements of a list have different keys, a search by key finds one element, and a sort that
tells all elements apart has one result, in whatever order the list was. Where keys repeat, each has
a last element.
-/
namespace RaceOverlay.Order

variable {α : Type} {lt : α → α → Bool}

/-- Among different keys, the first place with the key of a place is that place. -/
theorem findIdx?_key {key : α → Int} {xs : List α} (h : (xs.map key).Nodup) {i : Nat}
    (hi : i < xs.length) : (xs.findIdx? fun x => key x == key xs[i]) = some i := by
  have hkeys : xs.Pairwise fun a b => key a ≠ key b := List.pairwise_map.1 h
  refine List.findIdx?_eq_some_iff_getElem.2 ⟨hi, beq_self_eq_true _, fun j hj he => ?_⟩
  exact List.pairwise_iff_getElem.1 hkeys j i (Nat.lt_trans hj hi) hi hj (eq_of_beq he)

/-- Among different keys, a search by key finds the one element that has it. -/
theorem find?_key_eq_some_iff {key : α → Int} {xs : List α} (h : (xs.map key).Nodup) {k : Int}
    {x : α} : (xs.find? fun y => key y == k) = some x ↔ x ∈ xs ∧ key x = k := by
  constructor
  · intro hx
    exact ⟨List.mem_of_find?_eq_some hx, by simpa using List.find?_some hx⟩
  · rintro ⟨hx, rfl⟩
    cases hy : xs.find? fun y => key y == key x with
    | none => exact absurd (beq_self_eq_true _) (List.find?_eq_none.1 hy x hx)
    | some y =>
      have hkey : key y = key x := by simpa using List.find?_some hy
      rw [List.inj_on_of_nodup_map h (List.mem_of_find?_eq_some hy) hx hkey]

theorem find?_key_eq_of_perm {key : α → Int} {xs ys : List α} (hperm : xs.Perm ys)
    (h : (xs.map key).Nodup) (k : Int) :
    (xs.find? fun y => key y == k) = ys.find? fun y => key y == k := by
  refine Option.ext fun x => ?_
  rw [find?_key_eq_some_iff h, find?_key_eq_some_iff ((hperm.map key).nodup_iff.1 h),
    hperm.mem_iff]

/-- A key that some element has is that of a last one. -/
theorem exists_last_key {β : Type} {key : α → β} {k : β} {xs : List α}
    (h : ∃ x ∈ xs, key x = k) :
    ∃ before last after, xs = before ++ last :: after ∧ key last = k ∧
      ∀ y ∈ after, key y ≠ k := by
  induction xs with
  | nil =>
    obtain ⟨x, hx, -⟩ := h
    cases hx
  | cons first xs ih =>
    by_cases hlater : ∃ x ∈ xs, key x = k
    · obtain ⟨before, last, after, rfl, hlast⟩ := ih hlater
      exact ⟨first :: before, last, after, rfl, hlast⟩
    · have hnone : ∀ y ∈ xs, key y ≠ k := fun y hy hkey => hlater ⟨y, hy, hkey⟩
      obtain ⟨x, hx, hkey⟩ := h
      rcases List.mem_cons.1 hx with rfl | hx
      · exact ⟨[], x, xs, rfl, hkey, hnone⟩
      · exact absurd hkey (hnone x hx)

/-- The first place of an element is counted by what stands before it. -/
theorem length_eq_of_append_cons [DecidableEq α] {x : α} {xs ys zs ws : List α}
    (h : xs ++ x :: ys = zs ++ x :: ws) (hxs : x ∉ xs) (hzs : x ∉ zs) : xs.length = zs.length := by
  have hplace := congrArg (List.idxOf x) h
  rw [List.idxOf_append_of_notMem hxs, List.idxOf_append_of_notMem hzs, List.idxOf_cons_self,
    List.idxOf_cons_self] at hplace
  exact hplace

/-- In a list without repetitions two elements stand in the order of their places. -/
theorem pair_sublist_iff_lt {xs : List α} (h : xs.Nodup) {i j : Nat} (hi : i < xs.length)
    (hj : j < xs.length) : [xs[i], xs[j]].Sublist xs ↔ i < j := by
  constructor
  · intro hsub
    have hplaces : xs.Pairwise fun a b =>
        ∀ m n (hm : m < xs.length) (hn : n < xs.length), xs[m] = a → xs[n] = b → m < n := by
      rw [List.pairwise_iff_getElem]
      intro k l hk hl hkl m n hm hn hmk hnl
      have hm' := h.getElem_inj_iff.1 hmk
      have hn' := h.getElem_inj_iff.1 hnl
      omega
    exact List.pairwise_iff_forall_sublist.1 hplaces hsub i j hi hj rfl rfl
  · intro hij
    have hpairs : xs.Pairwise fun a b => [a, b].Sublist xs :=
      List.pairwise_iff_forall_sublist.2 fun hsub => hsub
    exact List.pairwise_iff_getElem.1 hpairs i j hi hj hij

/-- Without ties, a list and its rearrangements have one order. -/
theorem stableSort_eq_of_perm (hlt : StrictWeak lt) {xs ys : List α} (hperm : xs.Perm ys)
    (hties : ∀ a ∈ xs, ∀ b ∈ xs, lt a b = false → lt b a = false → a = b) :
    stableSort lt xs = stableSort lt ys := by
  have hxs := stableSort_perm lt xs
  have hys := stableSort_perm lt ys
  refine List.Perm.eq_of_pairwise ?_ (ascending_stableSort hlt xs) (ascending_stableSort hlt ys)
    (hxs.trans (hperm.trans hys.symm))
  intro a b ha hb hba hab
  exact hties a (hxs.mem_iff.1 ha) b (hperm.mem_iff.2 (hys.mem_iff.1 hb)) hab hba

end RaceOverlay.Order
