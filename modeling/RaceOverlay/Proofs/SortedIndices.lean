import Mathlib.Data.List.FinRange
import RaceOverlay.Order.Index
import RaceOverlay.Proofs.StableSorting

/-!
# Indices in order

The sorted indices of a list are fixed by three properties: each index is listed once, the elements
are in order when they are read at the indices, and equal elements keep increasing indices, also in
descending order. So a list that is in order already is read from the first index to the last. The
comparison has to be that of a total preorder on the elements of the list only: it may fail to be
one on others, as that of floats does on NaN.
-/
namespace RaceOverlay.Order

variable {α : Type} {lt : α → α → Bool} {xs ys : List α} {is js : List Nat}

/-- On the elements of a list the comparison is that of a total preorder. Where `lt b a = false` is
read as `a ≤ b`, one of any two elements is at most the other, and `≤` goes on along chains. -/
structure StrictWeakOn (lt : α → α → Bool) (xs : List α) : Prop where
  asymm : ∀ a ∈ xs, ∀ b ∈ xs, lt a b = true → lt b a = false
  chain : ∀ a ∈ xs, ∀ b ∈ xs, ∀ c ∈ xs, lt a b = false → lt b c = false → lt a c = false

theorem StrictWeakOn.mono (h : StrictWeakOn lt xs) (hsub : ∀ y ∈ ys, y ∈ xs) :
    StrictWeakOn lt ys where
  asymm a ha b hb := h.asymm a (hsub a ha) b (hsub b hb)
  chain a ha b hb c hc := h.chain a (hsub a ha) b (hsub b hb) c (hsub c hc)

theorem StrictWeakOn.before (h : StrictWeakOn lt xs) (direction : Direction) :
    StrictWeakOn (direction.before lt) xs := by
  cases direction with
  | ascending => exact h
  | descending =>
    constructor
    case asymm => exact fun a ha b hb => h.asymm b hb a ha
    case chain => exact fun a ha b hb c hc hba hcb => h.chain c hc b hb a ha hcb hba

/-- Places of a list compare as what stands there. -/
def placeBefore (lt : α → α → Bool) (xs : List α) (i j : Fin xs.length) : Bool := lt xs[i] xs[j]

theorem StrictWeakOn.placeBefore (h : StrictWeakOn lt xs) : StrictWeak (placeBefore lt xs) where
  asymm i j := h.asymm _ (List.getElem_mem i.isLt) _ (List.getElem_mem j.isLt)
  chain i j k := h.chain _ (List.getElem_mem i.isLt) _ (List.getElem_mem j.isLt) _
    (List.getElem_mem k.isLt)

private theorem map_finRange_eq_zipIdx (xs : List α) :
    (List.finRange xs.length).map (fun i => (xs[i], i.val)) = xs.zipIdx := by
  apply List.ext_getElem
  · simp
  · intro i hi _
    simp

/-- Numbered elements are sorted as the places are. -/
theorem sortedIndices_eq_places (lt : α → α → Bool) (direction : Direction) (xs : List α) :
    sortedIndices lt direction xs =
      (stableSort (placeBefore (direction.before lt) xs) (List.finRange xs.length)).map (·.val) := by
  let numbered (i : Fin xs.length) : α × Nat := (xs[i], i.val)
  let before (a b : α × Nat) : Bool := direction.before lt a.1 b.1
  have hcompare (i j : Fin xs.length) :
      before (numbered i) (numbered j) = placeBefore (direction.before lt) xs i j := rfl
  have hsorted := map_stableSort hcompare (List.finRange xs.length)
  rw [map_finRange_eq_zipIdx xs] at hsorted
  rw [sortedIndices, ← hsorted, List.map_map]
  rfl

/-- The elements of a list at some indices. -/
def readAt (xs : List α) (is : List Nat) : List α := is.filterMap (xs[·]?)

private theorem mem_of_mem_readAt {a : α} (h : a ∈ readAt xs is) : a ∈ xs := by
  obtain ⟨i, -, hi⟩ := List.mem_filterMap.1 h
  exact List.mem_of_getElem? hi

theorem readAt_places (places : List (Fin xs.length)) :
    readAt xs (places.map (·.val)) = places.map fun i => xs[i] := by
  unfold readAt
  induction places with
  | nil => rfl
  | cons i places ih => simp [ih]

theorem readAt_range (xs : List α) : readAt xs (List.range xs.length) = xs := by
  rw [← List.map_coe_finRange_eq_range, readAt_places]
  exact List.map_getElem_finRange xs

/-- The indices list every place once, put the elements in order and leave equal ones as they
are. -/
structure IsIndexOrder (lt : α → α → Bool) (xs : List α) (is : List Nat) : Prop where
  perm : is.Perm (List.range xs.length)
  ascending : Ascending lt (readAt xs is)
  stable : is.Pairwise fun i j => ∀ a b, xs[i]? = some a → xs[j]? = some b →
    lt a b = false → lt b a = false → i < j

namespace IsIndexOrder

private theorem length_readAt (h : IsIndexOrder lt xs is) : (readAt xs is).length = xs.length := by
  have hperm : (readAt xs is).Perm (readAt xs (List.range xs.length)) := h.perm.filterMap _
  rw [hperm.length_eq, readAt_range]

/-- The properties allow one order of two different indices, whatever laws the comparison has. -/
theorem eq (h : IsIndexOrder lt xs is) (hother : IsIndexOrder lt xs js) : is = js := by
  let precedes (i j : Nat) : Prop := ∀ a b, xs[i]? = some a → xs[j]? = some b →
    lt b a = false ∧ (lt a b = false → i < j)
  have hpairwise {ks : List Nat} (hks : IsIndexOrder lt xs ks) : ks.Pairwise precedes := by
    refine (List.pairwise_filterMap.1 hks.ascending).imp₂ (fun i j hordered hstable a b ha hb => ?_)
      hks.stable
    have hba := hordered a ha b hb
    exact ⟨hba, fun hab => hstable a b ha hb hab hba⟩
  refine List.Perm.eq_of_pairwise ?_ (hpairwise h) (hpairwise hother)
    (h.perm.trans hother.perm.symm)
  intro i j hi hj hij hji
  have hilt : i < xs.length := List.mem_range.1 (h.perm.mem_iff.1 hi)
  have hjlt : j < xs.length := List.mem_range.1 (hother.perm.mem_iff.1 hj)
  obtain ⟨hba, hlt⟩ := hij _ _ (List.getElem?_eq_getElem hilt) (List.getElem?_eq_getElem hjlt)
  obtain ⟨hab, hgt⟩ := hji _ _ (List.getElem?_eq_getElem hjlt) (List.getElem?_eq_getElem hilt)
  exact absurd (hlt hab) (Nat.lt_asymm (hgt hba))

end IsIndexOrder

theorem isIndexOrder_range : IsIndexOrder lt xs (List.range xs.length) ↔ Ascending lt xs := by
  constructor
  · intro h
    rw [← readAt_range xs]
    exact h.ascending
  · intro h
    constructor
    case perm => exact .refl _
    case ascending => rwa [readAt_range]
    case stable => exact List.pairwise_lt_range.imp fun hij _ _ _ _ _ _ => hij

theorem isIndexOrder_sortedIndices (direction : Direction) (h : StrictWeakOn lt xs) :
    IsIndexOrder (direction.before lt) xs (sortedIndices lt direction xs) := by
  have hlt : StrictWeak (placeBefore (direction.before lt) xs) := (h.before direction).placeBefore
  rw [sortedIndices_eq_places]
  constructor
  case perm =>
    rw [← List.map_coe_finRange_eq_range]
    exact (stableSort_perm _ _).map _
  case ascending =>
    rw [readAt_places]
    exact List.pairwise_map.2 (ascending_stableSort hlt _)
  case stable =>
    -- Places are listed in increasing order, and ties are left as they are listed.
    have hplaces : (stableSort (placeBefore (direction.before lt) xs)
        (List.finRange xs.length)).Pairwise fun i j =>
          placeBefore (direction.before lt) xs i j = false →
            placeBefore (direction.before lt) xs j i = false → i < j := by
      refine (pairwise_stableSort_iff hlt fun i _ j _ hij hji => ?_).2 ?_
      · rw [hij] at hji
        cases hji
      · exact (List.pairwise_lt_finRange _).imp fun hij _ _ _ _ => hij
    refine List.pairwise_map.2 (hplaces.imp fun {i j} hstable a b ha hb hab hba => ?_)
    obtain rfl : xs[i] = a := by simpa using ha
    obtain rfl : xs[j] = b := by simpa using hb
    exact hstable hab hba

/-- In both directions, the sorted indices are the one list with the three properties. They run from
the first index to the last exactly if the list is in order, as the sorted list is. -/
theorem sortedIndices_unique (lt : α → α → Bool) (direction : Direction) (xs : List α)
    (h : StrictWeakOn lt xs) :
    (∀ is, IsIndexOrder (direction.before lt) xs is ↔ is = sortedIndices lt direction xs) ∧
      (sortedIndices lt direction xs = List.range xs.length ↔
        Ascending (direction.before lt) xs) ∧
      sortedIndices lt direction (readAt xs (sortedIndices lt direction xs)) =
        List.range xs.length := by
  have horder := isIndexOrder_sortedIndices direction h
  have hrange {ys : List α} (hys : StrictWeakOn lt ys) :
      sortedIndices lt direction ys = List.range ys.length ↔ Ascending (direction.before lt) ys := by
    rw [← isIndexOrder_range]
    constructor
    · intro heq
      exact heq ▸ isIndexOrder_sortedIndices direction hys
    · intro hys'
      exact (isIndexOrder_sortedIndices direction hys).eq hys'
  refine ⟨fun is => ⟨fun his => his.eq horder, fun his => his ▸ horder⟩, hrange h, ?_⟩
  rw [(hrange (h.mono fun _ => mem_of_mem_readAt)).2 horder.ascending, horder.length_readAt]

/-- Floats without NaN, where all comparisons of floats are not those of a preorder. -/
theorem sortedIndices_unique_sample :
    StrictWeakOn (fun x y : Float => decide (x < y)) [1.5, 2.5, 1.5, -0.0, 0.0] ∧
      ¬ StrictWeak (fun x y : Float => decide (x < y)) ∧
      IsIndexOrder (fun x y : Float => decide (y < x)) [1.5, 2.5, 1.5, -0.0, 0.0]
        [1, 0, 2, 3, 4] := by
  have h : StrictWeakOn (fun x y : Float => decide (x < y)) [1.5, 2.5, 1.5, -0.0, 0.0] :=
    ⟨by decide, by decide⟩
  refine ⟨h, fun hall => ?_, ?_⟩
  · exact absurd (hall.chain 1.5 (0.0 / 0.0) 2.5) (by decide)
  · exact ((sortedIndices_unique _ .descending _ h).1 _).2 (by decide)

end RaceOverlay.Order
