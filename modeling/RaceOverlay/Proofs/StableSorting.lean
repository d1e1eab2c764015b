import Mathlib.Data.List.Chain
import Mathlib.Data.List.Forall2
import Mathlib.Data.List.Induction
import Mathlib.Order.Lattice
import RaceOverlay.Order.Least
import RaceOverlay.Order.Stable

/-!
# What stable sorting gives

For a comparison whose ties are transitive, the sorted list is in order and ties keep their places.
Both follow from one fact: sorting a part of a list gives that part of the sorted list.
-/
namespace RaceOverlay.Order

variable {α : Type} {lt : α → α → Bool}

/-- No two elements are less than each other, and what is not less stays so along a chain. -/
structure StrictWeak (lt : α → α → Bool) : Prop where
  asymm : ∀ a b, lt a b = true → lt b a = false
  chain : ∀ a b c, lt a b = false → lt b c = false → lt a c = false

theorem StrictWeak.ofKey (key : α → Int) : StrictWeak fun a b => decide (key a < key b) where
  asymm a b h := decide_eq_false (Int.lt_asymm (of_decide_eq_true h))
  chain a b c hab hbc := by
    have hba : key b ≤ key a := Int.not_lt.1 (of_decide_eq_false hab)
    have hcb : key c ≤ key b := Int.not_lt.1 (of_decide_eq_false hbc)
    exact decide_eq_false (Int.not_lt.2 (Int.le_trans hcb hba))

theorem StrictWeak.irrefl (h : StrictWeak lt) (a : α) : lt a a = false := by
  cases haa : lt a a with
  | false => rfl
  | true => exact haa.symm.trans (h.asymm a a haa)

/-- The comparison the other way round, as descending orders use it. -/
theorem StrictWeak.flip (h : StrictWeak lt) : StrictWeak fun a b => lt b a where
  asymm a b hba := h.asymm b a hba
  chain a b c hba hcb := h.chain c b a hcb hba

theorem StrictWeak.comap {β : Type} (h : StrictWeak lt) (f : β → α) :
    StrictWeak fun a b => lt (f a) (f b) where
  asymm a b := h.asymm (f a) (f b)
  chain a b c := h.chain (f a) (f b) (f c)

section Lexicographic

variable {β : Type} [LinearOrder β] {key : α → β} {a b : α}

/-- A key comes first, and another comparison where the keys are equal. -/
def lexBefore (key : α → β) (lt : α → α → Bool) (a b : α) : Bool :=
  if key a ≠ key b then decide (key a < key b) else lt a b

theorem lexBefore_eq_false_iff :
    lexBefore key lt a b = false ↔ key b < key a ∨ key a = key b ∧ lt a b = false := by
  rcases lt_trichotomy (key a) (key b) with hlt | heq | hgt
  · simp [lexBefore, hlt.ne, hlt, hlt.le]
  · simp [lexBefore, heq]
  · simp [lexBefore, hgt.ne', hgt, hgt.le]

private theorem lexBefore_of_eq (h : key a = key b) : lexBefore key lt a b = lt a b :=
  if_neg (not_not.2 h)

theorem lexBefore_ties (hab : lexBefore key lt a b = false) (hba : lexBefore key lt b a = false) :
    key a = key b ∧ lt a b = false ∧ lt b a = false := by
  rcases lexBefore_eq_false_iff.1 hab with hgt | ⟨heq, hab⟩
  · rcases lexBefore_eq_false_iff.1 hba with hlt | ⟨heq, -⟩
    · exact absurd hlt hgt.asymm
    · exact absurd heq hgt.ne
  · rw [lexBefore_of_eq heq.symm] at hba
    exact ⟨heq, hab, hba⟩

theorem lexBefore_eq_true_iff :
    lexBefore key lt a b = true ↔ key a < key b ∨ key a = key b ∧ lt a b = true := by
  by_cases heq : key a = key b
  · simp [lexBefore, heq]
  · simp [lexBefore, heq]

theorem StrictWeak.lexBefore (key : α → β) (h : StrictWeak lt) : StrictWeak (lexBefore key lt) := by
  refine ⟨fun a b hab => ?_, fun a b c hab hbc => ?_⟩
  · rw [lexBefore_eq_false_iff]
    rw [Order.lexBefore] at hab
    by_cases heq : key a = key b
    · rw [if_neg (not_not.2 heq)] at hab
      exact .inr ⟨heq.symm, h.asymm a b hab⟩
    · rw [if_pos heq] at hab
      exact .inl (of_decide_eq_true hab)
  · rw [lexBefore_eq_false_iff] at hab hbc ⊢
    rcases hab with hab | ⟨hab, hlab⟩
    · rcases hbc with hbc | ⟨hbc, -⟩
      · exact .inl (hbc.trans hab)
      · exact .inl (hbc ▸ hab)
    · rcases hbc with hbc | ⟨hbc, hlbc⟩
      · exact .inl (hab ▸ hbc)
      · exact .inr ⟨hab.trans hbc, h.chain a b c hlab hlbc⟩

end Lexicographic

/-- The lists that insertion works on: greater elements come first. -/
def Descending (lt : α → α → Bool) (xs : List α) : Prop := xs.Pairwise fun a b => lt a b = false

/-- No element is less than one before it. -/
def Ascending (lt : α → α → Bool) (xs : List α) : Prop := xs.Pairwise fun a b => lt b a = false

private theorem ascending_reverse {xs : List α} : Ascending lt xs.reverse ↔ Descending lt xs :=
  List.pairwise_reverse

private theorem descending_reverse {xs : List α} : Descending lt xs.reverse ↔ Ascending lt xs :=
  List.pairwise_reverse

/-- What is not less than the first element is less than none. -/
theorem Descending.not_lt {x y : α} {ys : List α} (h : Descending lt (y :: ys))
    (hlt : StrictWeak lt) (hxy : lt x y = false) : ∀ z ∈ y :: ys, lt x z = false := by
  intro z hz
  rcases List.mem_cons.1 hz with rfl | hz
  · exact hxy
  · exact hlt.chain x y z hxy ((List.pairwise_cons.1 h).1 z hz)

private theorem descending_insertBack (hlt : StrictWeak lt) (x : α) {ys : List α}
    (hys : Descending lt ys) : Descending lt (insertBack lt x ys) := by
  induction ys with
  | nil => exact List.pairwise_singleton _ x
  | cons y ys ih =>
    obtain ⟨hy, hrest⟩ := List.pairwise_cons.1 hys
    simp only [insertBack]
    split
    · rename_i hxy
      refine List.pairwise_cons.2 ⟨fun z hz => ?_, ih hrest⟩
      rcases List.mem_cons.1 ((insertBack_perm lt x ys).mem_iff.1 hz) with rfl | hz
      · exact hlt.asymm _ _ hxy
      · exact hy z hz
    · rename_i hxy
      exact List.pairwise_cons.2 ⟨hys.not_lt hlt (Bool.eq_false_iff.2 hxy), hys⟩

/-- An element that is less than none stays in front. -/
private theorem insertBack_of_not_lt {x : α} {ys : List α} (h : ∀ y ∈ ys, lt x y = false) :
    insertBack lt x ys = x :: ys := by
  cases ys with
  | nil => rfl
  | cons y ys => rw [insertBack, h y List.mem_cons_self, if_neg Bool.false_ne_true]

private theorem filter_insertBack (hlt : StrictWeak lt) (p : α → Bool) (x : α) {ys : List α}
    (hys : Descending lt ys) :
    (insertBack lt x ys).filter p =
      if p x then insertBack lt x (ys.filter p) else ys.filter p := by
  induction ys with
  | nil => cases hx : p x <;> simp [insertBack, hx]
  | cons y ys ih =>
    cases hxy : lt x y with
    | true =>
      rw [insertBack, if_pos hxy, List.filter_cons, ih hys.tail]
      cases hp : p y <;> cases hx : p x <;> simp [hp, insertBack, hxy]
    | false =>
      -- `x` stays in front of all of `y :: ys`, hence also of what is kept of it.
      have hfront := hys.not_lt hlt hxy
      rw [insertBack_of_not_lt hfront,
        insertBack_of_not_lt fun z hz => hfront z (List.mem_filter.1 hz).1, List.filter_cons]

/-- The last element of a list is the one that is inserted last. -/
theorem stableSort_concat (lt : α → α → Bool) (xs : List α) (x : α) :
    stableSort lt (xs ++ [x]) = (insertBack lt x (stableSort lt xs).reverse).reverse := by
  rw [stableSort, stableSort, List.foldl_append, List.reverse_reverse]
  rfl

section Related

variable {β : Type} {ltOther : β → β → Bool}

private theorem forall₂_insertBack {r : α → β → Prop}
    (h : ∀ a b c d, r a b → r c d → lt a c = ltOther b d) {x : α} {y : β} (hxy : r x y)
    {xs : List α} {ys : List β} (hxs : List.Forall₂ r xs ys) :
    List.Forall₂ r (insertBack lt x xs) (insertBack ltOther y ys) := by
  induction hxs with
  | nil => exact .cons hxy .nil
  | @cons a b as bs hab has ih =>
    rw [insertBack, insertBack, h x y a b hxy hab]
    split
    · exact .cons hab ih
    · exact .cons hxy (.cons hab has)

/-- Elements that are related to each other, and compare alike, are sorted alike. -/
theorem forall₂_stableSort {r : α → β → Prop}
    (h : ∀ a b c d, r a b → r c d → lt a c = ltOther b d) {xs : List α} {ys : List β}
    (hxs : List.Forall₂ r xs ys) : List.Forall₂ r (stableSort lt xs) (stableSort ltOther ys) := by
  have hstep : Relator.LiftFun (List.Forall₂ r) (Relator.LiftFun r (List.Forall₂ r))
      (fun placed x => insertBack lt x placed) (fun placed y => insertBack ltOther y placed) :=
    fun _ _ hplaced _ _ hxy => forall₂_insertBack h hxy hplaced
  exact List.rel_reverse (List.rel_foldl hstep .nil hxs)

/-- A map that keeps the comparison can be applied before or after sorting. -/
theorem map_stableSort {f : α → β} (h : ∀ a b, ltOther (f a) (f b) = lt a b) (xs : List α) :
    (stableSort lt xs).map f = stableSort ltOther (xs.map f) := by
  have hmapped : List.Forall₂ (fun a b => f a = b) xs (xs.map f) :=
    List.forall₂_map_right_iff.2 (List.forall₂_same.2 fun _ _ => rfl)
  have hsorted : List.Forall₂ (fun a b => f a = b) (stableSort lt xs)
      (stableSort ltOther (xs.map f)) := by
    refine forall₂_stableSort ?_ hmapped
    rintro a _ c _ rfl rfl
    exact (h a c).symm
  rw [← List.forall₂_eq_eq_eq]
  exact List.forall₂_map_left_iff.2 hsorted

end Related

/-- Insertion goes from the left, so the inductions on a sorted list are from its end. -/
theorem ascending_stableSort (hlt : StrictWeak lt) (xs : List α) :
    Ascending lt (stableSort lt xs) := by
  induction xs using List.reverseRecOn with
  | nil => exact .nil
  | append_singleton xs x ih =>
    rw [stableSort_concat, ascending_reverse]
    exact descending_insertBack hlt x (descending_reverse.2 ih)

/-- In a list that is in order, a lesser element has a lesser place. -/
theorem Ascending.lt_of_lt {xs : List α} (h : Ascending lt xs) (hlt : StrictWeak lt) {i j : Nat}
    (hi : i < xs.length) (hj : j < xs.length) (hij : lt xs[i] xs[j] = true) : i < j := by
  rcases Nat.lt_trichotomy i j with hlt' | rfl | hgt
  · exact hlt'
  · exact absurd hij (Bool.eq_false_iff.1 (hlt.irrefl _))
  · exact absurd hij (Bool.eq_false_iff.1 (List.pairwise_iff_getElem.1 h j i hj hi hgt))

/-- Sorting and leaving elements out can be done in either order. -/
theorem filter_stableSort (hlt : StrictWeak lt) (p : α → Bool) (xs : List α) :
    (stableSort lt xs).filter p = stableSort lt (xs.filter p) := by
  induction xs using List.reverseRecOn with
  | nil => rfl
  | append_singleton xs x ih =>
    have hplaced : Descending lt (stableSort lt xs).reverse :=
      descending_reverse.2 (ascending_stableSort hlt xs)
    rw [stableSort_concat, List.filter_reverse, filter_insertBack hlt p x hplaced,
      List.filter_reverse, ih, List.filter_append]
    cases hx : p x <;> simp [hx, stableSort_concat]

private theorem filter_insertBack_of_ties {p : α → Bool} {x : α}
    (hties : ∀ y, p x = true → p y = true → lt x y = false) (ys : List α) :
    (insertBack lt x ys).filter p = if p x then x :: ys.filter p else ys.filter p := by
  induction ys with
  | nil => cases hx : p x <;> simp [insertBack, hx]
  | cons y ys ih =>
    rw [insertBack]
    split
    · rename_i hxy
      rw [List.filter_cons, ih]
      cases hx : p x with
      | false => simp [List.filter_cons]
      | true =>
        -- `x` passes only what is left out.
        have hy : p y = false := by
          by_contra hpy
          rw [hties y hx (by simpa using hpy)] at hxy
          cases hxy
        simp [hy]
    · rw [List.filter_cons]

/-- Elements that the comparison does not tell apart keep their order, whatever it makes of the
others. -/
theorem filter_stableSort_of_ties (p : α → Bool) (xs : List α)
    (hties : ∀ a b, p a = true → p b = true → lt a b = false) :
    (stableSort lt xs).filter p = xs.filter p := by
  induction xs using List.reverseRecOn with
  | nil => rfl
  | append_singleton xs x ih =>
    rw [stableSort_concat, List.filter_reverse, filter_insertBack_of_ties (hties x),
      List.filter_reverse, ih, List.filter_append]
    cases hx : p x <;> simp [hx]

/-- Two elements that the comparison does not tell apart stay in their order. -/
theorem pair_sublist_stableSort (hlt : StrictWeak lt) {a b : α} (hab : lt a b = false)
    (hba : lt b a = false) (xs : List α) :
    [a, b].Sublist (stableSort lt xs) ↔ [a, b].Sublist xs := by
  let tied (x : α) : Bool := !lt a x && !lt x a
  have hpair : [a, b].filter tied = [a, b] := by simp [tied, hlt.irrefl a, hab, hba]
  have hfilter (l : List α) : [a, b].Sublist l ↔ [a, b].Sublist (l.filter tied) := by
    refine ⟨fun h => ?_, fun h => h.trans List.filter_sublist⟩
    rw [← hpair]
    exact h.filter tied
  have hties : (stableSort lt xs).filter tied = xs.filter tied := by
    refine filter_stableSort_of_ties tied xs fun x y hx hy => ?_
    have hxa : lt x a = false := by simpa [tied] using (Bool.and_eq_true_iff.1 hx).2
    have hay : lt a y = false := by simpa [tied] using (Bool.and_eq_true_iff.1 hy).1
    exact hlt.chain x a y hxa hay
  rw [hfilter, hties, ← hfilter]

/-- What holds of each lesser element and a greater one holds along the sorted list, if it holds of
the ties as they are listed. -/
theorem pairwise_stableSort_iff (hlt : StrictWeak lt) {r : α → α → Prop} {xs : List α}
    (hr : ∀ a ∈ xs, ∀ b ∈ xs, lt a b = true → r a b) :
    (stableSort lt xs).Pairwise r ↔
      xs.Pairwise fun a b => lt a b = false → lt b a = false → r a b := by
  have hperm := stableSort_perm lt xs
  constructor
  · intro h
    refine List.pairwise_iff_forall_sublist.2 fun hsub hab hba => ?_
    exact List.pairwise_iff_forall_sublist.1 h ((pair_sublist_stableSort hlt hab hba xs).2 hsub)
  · intro h
    refine List.pairwise_iff_forall_sublist.2 fun {a b} hsub => ?_
    have hba : lt b a = false :=
      List.pairwise_iff_forall_sublist.1 (ascending_stableSort hlt xs) hsub
    cases hab : lt a b with
    | true =>
      have ha : a ∈ xs := hperm.mem_iff.1 (hsub.subset List.mem_cons_self)
      have hb : b ∈ xs := hperm.mem_iff.1 (hsub.subset (List.mem_cons_of_mem _ List.mem_cons_self))
      exact hr a ha b hb hab
    | false =>
      have hlisted := (pair_sublist_stableSort hlt hab hba xs).1 hsub
      exact List.pairwise_iff_forall_sublist.1 h hlisted hab hba

section Neighbours

variable (hasymm : ∀ a b, lt a b = true → lt b a = false)
include hasymm

private theorem isChain_insertBack (x : α) {ys : List α}
    (h : ys.IsChain fun a b => lt a b = false) :
    (insertBack lt x ys).IsChain fun a b => lt a b = false := by
  induction ys with
  | nil => exact .singleton x
  | cons y ys ih =>
    rw [insertBack]
    split
    · rename_i hxy
      obtain ⟨hhead, hys⟩ := List.isChain_cons.1 h
      refine .cons (ih hys) fun z hz => ?_
      -- The next element is `x` itself or the one that followed before.
      cases ys with
      | nil =>
        obtain rfl : x = z := Option.some.inj hz
        exact hasymm x y hxy
      | cons w ws =>
        rw [insertBack] at hz
        split at hz
        · exact hhead z hz
        · obtain rfl : x = z := Option.some.inj hz
          exact hasymm x y hxy
    · rename_i hxy
      exact .cons_cons (Bool.eq_false_iff.2 hxy) h

/-- Without any law for chains, neighbours are still in order. -/
theorem isChain_stableSort (xs : List α) :
    (stableSort lt xs).IsChain fun a b => lt b a = false := by
  induction xs using List.reverseRecOn with
  | nil => exact .nil
  | append_singleton xs x ih =>
    rw [stableSort_concat, List.isChain_reverse]
    exact isChain_insertBack hasymm x (List.isChain_reverse.2 ih)

end Neighbours

/-- The element that is inserted comes last only if it is less than the last one so far. -/
private theorem getLast?_insertBack (hlt : StrictWeak lt) (x : α) {ys : List α}
    (hys : Descending lt ys) :
    (insertBack lt x ys).getLast? =
      some (match ys.getLast? with
        | none => x
        | some z => if lt x z then x else z) := by
  induction ys with
  | nil => rfl
  | cons y ys ih =>
    cases hxy : lt x y with
    | true =>
      rw [insertBack, if_pos hxy, List.getLast?_cons, ih hys.tail]
      cases h : ys.getLast? with
      | none => simp [List.getLast?_eq_none_iff.1 h, hxy]
      | some z => simp [List.getLast?_cons, h]
    | false =>
      rw [insertBack, hxy, if_neg Bool.false_ne_true, List.getLast?_cons_cons]
      cases h : (y :: ys).getLast? with
      | none => simp at h
      | some z => simp [hys.not_lt hlt hxy z (List.mem_of_getLast? h)]

theorem least?_concat (key : α → Int) (xs : List α) (x : α) :
    least? key (xs ++ [x]) =
      some (match least? key xs with
        | none => x
        | some z => if key x < key z then x else z) := by
  induction xs with
  | nil => rfl
  | cons y ys ih =>
    rw [List.cons_append, least?, ih, least?]
    cases least? key ys with
    | none => dsimp only; split <;> rfl
    | some z => grind

/-- The first of the least elements is the one that sorting puts in front. -/
theorem head?_stableSort (key : α → Int) (xs : List α) :
    (stableSort (fun a b => decide (key a < key b)) xs).head? = least? key xs := by
  have hlt := StrictWeak.ofKey key
  induction xs using List.reverseRecOn with
  | nil => rfl
  | append_singleton xs x ih =>
    have hplaced := descending_reverse.2 (ascending_stableSort hlt xs)
    rw [stableSort_concat, List.head?_reverse, getLast?_insertBack hlt x hplaced,
      List.getLast?_reverse, ih, least?_concat]
    simp only [decide_eq_true_eq]

end RaceOverlay.Order
