import Mathlib.Data.Int.ConditionallyCompleteOrder
import Mathlib.Data.Prod.Lex
import RaceOverlay.Proofs.FloatOrder
import RaceOverlay.Proofs.PointsOrder
import RaceOverlay.Proofs.Relisting

/-!
# The six orders of a session

Each order lists all cars of the session once, puts neighbours in the order of its key and keeps
cars with equal keys as they are listed. A rank finds the car at that place of the list, or of the
part of the list that belongs to a class. The keys are stated here with unclassified cars behind all
others. Sorting goes by a 32-bit key, so a car at the greatest position can fall behind an
unclassified one: the condition under which it does not is exact.
-/
namespace RaceOverlay

private theorem isNaN_fastestKey (x : Standing) : x.fastestKey.isNaN = false := by
  unfold Standing.fastestKey
  split
  · rename_i hlap
    exact (isNaN_of_lt hlap).2
  · have hgreatest : maxDouble.isNaN = false := by decide +kernel
    exact hgreatest

section Positions

variable {p q : Int}

private theorem positionKey_eq_of_rank_eq (h : positionRank p = positionRank q) :
    positionKey p = positionKey q := by
  unfold positionRank at h
  unfold positionKey
  split at h
  · split at h
    · rename_i hp hq
      rw [if_pos hp, if_pos hq, WithTop.coe_inj.1 h]
    · cases h
  · split at h
    · cases h
    · rename_i hp hq
      rw [if_neg hp, if_neg hq]

/-- Positions with one key stand in the order of their ranks unless the first alone is none. -/
private theorem rank_le_iff_of_key_eq (h : positionKey p = positionKey q) :
    positionRank p ≤ positionRank q ↔ (p ≤ 0 → q ≤ 0) := by
  rcases lt_or_ge 0 q with hq | hq
  · rcases lt_or_ge 0 p with hp | hp
    · rw [Session.positionKey_of_pos hp, Session.positionKey_of_pos hq] at h
      rw [h]
      exact iff_of_true le_rfl id
    · rw [positionRank, positionRank, if_neg (not_lt.2 hp), if_pos hq]
      refine iff_of_false (not_le.2 (WithTop.coe_lt_top q)) fun himp => ?_
      exact absurd (himp hp) (not_le.2 hq)
  · have htop : positionRank q = ⊤ := if_neg (not_lt.2 hq)
    rw [htop]
    exact iff_of_true le_top fun _ => hq

private theorem rank_le_of_key_lt (hq : q ≤ Text.maxSigned32) (h : positionKey p < positionKey q) :
    positionRank p ≤ positionRank q := by
  have hkey := Session.positionKey_le hq
  rcases lt_or_ge 0 p with hp | hp
  · rw [Session.positionKey_of_pos hp] at h
    rw [positionRank, positionRank, if_pos hp]
    split
    · rename_i hpos
      rw [Session.positionKey_of_pos hpos] at h
      exact WithTop.coe_le_coe.2 h.le
    · exact le_top
  · rw [Session.positionKey_of_not_pos hp] at h
    omega

end Positions

/-- Classes in their order, then by name, then the positions in a class. -/
def Standing.classKey (x : Standing) : Int ×ₗ String ×ₗ WithTop Int :=
  toLex (x.driver.classOrder, toLex (x.driver.className, positionRank x.position))

/-- The points of the driver, behind all points if there are none. -/
def External.pointsRank (e : External) (x : Standing) : WithBot Int := e.points? x.driver.user

namespace StandingOrder

/-- The first car may stand directly ahead of the second: the key of the order allows it. A NaN is
neither before nor behind any progress. -/
def InOrder (order : StandingOrder) (external : External) (a b : Standing) : Prop :=
  match order with
  | .position => positionRank a.position ≤ positionRank b.position
  | .livePosition => positionRank a.livePosition ≤ positionRank b.livePosition
  | .classPosition => a.classKey ≤ b.classKey
  | .fastestLap => a.fastestKey ≤ b.fastestKey
  | .points => external.pointsRank b ≤ external.pointsRank a
  | .trackPosition =>
    a.progress.isNaN = true ∨ b.progress.isNaN = true ∨ b.progress ≤ a.progress

/-- Listed in this way, the second car is not at the greatest position while the first is
unclassified, as far as the order has to tell the two apart by that. -/
def GreatestAhead (order : StandingOrder) (a b : Standing) : Prop :=
  match order with
  | .position => a.position ≤ 0 → b.position ≠ Text.maxSigned32
  | .livePosition => a.livePosition ≤ 0 → b.livePosition ≠ Text.maxSigned32
  | .classPosition =>
    a.driver.classOrder = b.driver.classOrder → a.driver.className = b.driver.className →
      a.position ≤ 0 → b.position ≠ Text.maxSigned32
  | .fastestLap | .points | .trackPosition => True

variable {order : StandingOrder} {external : External} {a b : Standing}

private theorem asymm_before (order : StandingOrder) (external : External) (a b : Standing)
    (h : order.before external a b = true) : order.before external b a = false := by
  cases order with
  | position | livePosition | classPosition =>
    exact (Session.strictWeak_before (by decide) external).asymm a b h
  | fastestLap | trackPosition =>
    have hlt := of_decide_eq_true h
    exact decide_eq_false (not_lt_of_float_le (float_le_of_lt hlt))
  | points =>
    exact strictWeak_fewerPoints.asymm _ _ h

private theorem eq_of_not_key_lt {p q : Int} (hpq : decide (positionKey p < positionKey q) = false)
    (hqp : decide (positionKey q < positionKey p) = false) : positionKey p = positionKey q :=
  le_antisymm (not_lt.1 (of_decide_eq_false hqp)) (not_lt.1 (of_decide_eq_false hpq))

private theorem not_key_lt_of_eq {p q : Int} (h : positionKey p = positionKey q) :
    decide (positionKey p < positionKey q) = false :=
  decide_eq_false (by omega)

/-- What keys by class compare: the class first, and positions within it. -/
theorem classKey_le_iff : a.classKey ≤ b.classKey ↔
    a.driver.classOrder < b.driver.classOrder ∨ a.driver.classOrder = b.driver.classOrder ∧
      (a.driver.className < b.driver.className ∨ a.driver.className = b.driver.className ∧
        positionRank a.position ≤ positionRank b.position) := by
  unfold Standing.classKey
  rw [Prod.Lex.toLex_le_toLex, Prod.Lex.toLex_le_toLex]

/-- Within a class, the positions decide. -/
theorem beforeByClass_of_eq (hclass : a.driver.classOrder = b.driver.classOrder)
    (hname : a.driver.className = b.driver.className) :
    a.beforeByClass b = decide (positionKey a.position < positionKey b.position) := by
  rw [Standing.beforeByClass, if_neg (not_not.2 hclass), if_neg (not_not.2 hname)]

section ByPosition

variable (horder : order.IsByPosition)
include horder

theorem inOrder_of_before (hb : b.position ≤ Text.maxSigned32)
    (hlive : b.livePosition ≤ Text.maxSigned32) (h : order.before external a b = true) :
    order.InOrder external a b := by
  cases order with
  | position => exact rank_le_of_key_lt hb (of_decide_eq_true h)
  | livePosition => exact rank_le_of_key_lt hlive (of_decide_eq_true h)
  | classPosition =>
    refine classKey_le_iff.2 ?_
    have hbefore : a.beforeByClass b = true := h
    rw [Standing.beforeByClass_eq, Order.lexBefore_eq_true_iff,
      Order.lexBefore_eq_true_iff] at hbefore
    refine hbefore.imp_right (And.imp_right (Or.imp_right (And.imp_right fun hkey => ?_)))
    exact rank_le_of_key_lt hb (of_decide_eq_true hkey)
  | fastestLap | points | trackPosition => exact horder.elim

/-- The keys leave one way for two cars to be in the wrong order. -/
theorem inOrder_of_ties_iff :
    (order.before external a b = false → order.before external b a = false →
      order.InOrder external a b) ↔ order.GreatestAhead a b := by
  have hkeys {p q : Int} :
      (decide (positionKey p < positionKey q) = false →
        decide (positionKey q < positionKey p) = false → positionRank p ≤ positionRank q) ↔
        (p ≤ 0 → q ≠ Text.maxSigned32) := by
    rw [← Session.unclassified_of_ties_iff]
    exact forall₂_congr fun hpq hqp => rank_le_iff_of_key_eq (eq_of_not_key_lt hpq hqp)
  cases order with
  | position => exact hkeys
  | livePosition => exact hkeys
  | classPosition =>
    show (a.beforeByClass b = false → b.beforeByClass a = false → a.classKey ≤ b.classKey) ↔
      (_ → _ → a.position ≤ 0 → b.position ≠ Text.maxSigned32)
    rw [classKey_le_iff]
    constructor
    · intro h hclass hname
      rw [beforeByClass_of_eq hclass hname, beforeByClass_of_eq hclass.symm hname.symm] at h
      refine hkeys.1 fun hab hba => ?_
      rcases h hab hba with hlt | ⟨-, hlt | ⟨-, hle⟩⟩
      · exact absurd hclass hlt.ne
      · exact absurd hname hlt.ne
      · exact hle
    · intro h hab hba
      rw [Standing.beforeByClass_eq] at hab hba
      obtain ⟨hclass, hab, hba⟩ := Order.lexBefore_ties hab hba
      obtain ⟨hname, hab, hba⟩ := Order.lexBefore_ties hab hba
      exact .inr ⟨hclass, .inr ⟨hname, hkeys.2 (h hclass hname) hab hba⟩⟩
  | fastestLap | points | trackPosition => exact horder.elim

theorem inOrder_trans {c : Standing} (hab : order.InOrder external a b)
    (hbc : order.InOrder external b c) : order.InOrder external a c := by
  cases order with
  | position | livePosition | classPosition => exact le_trans hab hbc
  | fastestLap | points | trackPosition => exact horder.elim

end ByPosition

theorem inOrder_of_not_before (horder : ¬ order.IsByPosition)
    (h : order.before external b a = false) : order.InOrder external a b := by
  cases order with
  | position | livePosition | classPosition => exact absurd trivial horder
  | fastestLap =>
    exact float_le_of_not_lt (isNaN_fastestKey a) (isNaN_fastestKey b) (of_decide_eq_false h)
  | points =>
    have hfewer : fewerPoints (external.points? a.driver.user) (external.points? b.driver.user) =
        false := h
    show external.pointsRank b ≤ external.pointsRank a
    unfold External.pointsRank
    cases hb : external.points? b.driver.user with
    | none => exact bot_le
    | some q =>
      cases ha : external.points? a.driver.user with
      | none =>
        rw [ha, hb] at hfewer
        cases hfewer
      | some p =>
        rw [ha, hb] at hfewer
        exact WithBot.coe_le_coe.2 (not_lt.1 (of_decide_eq_false hfewer))
  | trackPosition =>
    by_cases ha : a.progress.isNaN = true
    · exact .inl ha
    · by_cases hb : b.progress.isNaN = true
      · exact .inr (.inl hb)
      · refine .inr (.inr (float_le_of_not_lt ?_ ?_ (of_decide_eq_false h)))
        · exact Bool.eq_false_iff.2 hb
        · exact Bool.eq_false_iff.2 ha

/-- Cars with equal keys are not sorted. -/
theorem not_before_of_inOrder (hab : order.InOrder external a b)
    (hba : order.InOrder external b a) : order.before external a b = false := by
  cases order with
  | position | livePosition =>
    exact not_key_lt_of_eq (positionKey_eq_of_rank_eq (le_antisymm hab hba))
  | classPosition =>
    have hkey : a.classKey = b.classKey := le_antisymm hab hba
    unfold Standing.classKey at hkey
    simp only [toLex_inj, Prod.mk.injEq] at hkey
    obtain ⟨hclass, hname, hrank⟩ := hkey
    show a.beforeByClass b = false
    rw [beforeByClass_of_eq hclass hname]
    exact not_key_lt_of_eq (positionKey_eq_of_rank_eq hrank)
  | fastestLap => exact decide_eq_false (not_lt_of_float_le hba)
  | points =>
    have heq : external.pointsRank a = external.pointsRank b := le_antisymm hba hab
    unfold External.pointsRank at heq
    show fewerPoints (external.points? b.driver.user) (external.points? a.driver.user) = false
    rw [heq]
    exact strictWeak_fewerPoints.irrefl _
  | trackPosition =>
    refine decide_eq_false fun hlt => ?_
    obtain ⟨hb, ha⟩ := isNaN_of_lt hlt
    rcases hba with hnan | hnan | hle
    · rw [hb] at hnan
      cases hnan
    · rw [ha] at hnan
      cases hnan
    · exact not_lt_of_float_le hle hlt

end StandingOrder

namespace Session

/-- The order lists every car once and keeps the list order of cars with equal keys, and the ranks
from one on go through the cars of a class, or of all classes, as they are ordered. -/
structure Enumerates (s : Session) (order : StandingOrder) (external : External) : Prop where
  perm : (s.ordered order external).Perm s.standings
  stable : ∀ tied : Standing → Bool,
    (∀ a b, tied a = true → tied b = true → order.InOrder external a b) →
      (s.ordered order external).filter tied = s.standings.filter tied
  place : ∀ className (i : Nat), s.atRank? (i + 1) order className external =
    ((s.ordered order external).filter (isOfClass className))[i]?
  beyond : ∀ className rank, s.atRank? rank order className external = none ↔
    rank < 1 ∨ ((s.standings.filter (isOfClass className)).length : Int) < rank
  ranks : ∀ className,
    ((List.range (s.standings.filter (isOfClass className)).length).map fun i : Nat =>
        s.atRank? (i + 1) order className external).Perm
      ((s.standings.filter (isOfClass className)).map some)

variable (s : Session) (order : StandingOrder) (external : External)

theorem filter_ordered_perm (className : Option String) :
    ((s.ordered order external).filter (isOfClass className)).Perm
      (s.standings.filter (isOfClass className)) :=
  (s.ordered_perm order external).filter _

theorem atRank?_eq_none_iff (className : Option String) (rank : Int) :
    s.atRank? rank order className external = none ↔
      rank < 1 ∨ ((s.standings.filter (isOfClass className)).length : Int) < rank := by
  have hlength := (s.filter_ordered_perm order external className).length_eq
  rcases lt_or_ge rank 1 with hlow | hlow
  · exact iff_of_true (if_pos hlow) (.inl hlow)
  · obtain ⟨i, rfl⟩ : ∃ i : Nat, rank = i + 1 := ⟨rank.toNat - 1, by omega⟩
    rw [atRank?_add_one, List.getElem?_eq_none_iff, hlength]
    omega

theorem map_atRank?_perm (className : Option String) :
    ((List.range (s.standings.filter (isOfClass className)).length).map fun i : Nat =>
        s.atRank? (i + 1) order className external).Perm
      ((s.standings.filter (isOfClass className)).map some) := by
  have hperm := s.filter_ordered_perm order external className
  have hplaces : (List.range (s.standings.filter (isOfClass className)).length).map (fun i : Nat =>
        s.atRank? (i + 1) order className external) =
      ((s.ordered order external).filter (isOfClass className)).map some := by
    rw [← hperm.length_eq]
    refine List.ext_getElem (by simp) fun i hi _ => ?_
    rw [List.length_map, List.length_range] at hi
    rw [List.getElem_map, List.getElem_range, List.getElem_map, atRank?_add_one,
      List.getElem?_eq_getElem hi]
  rw [hplaces]
  exact hperm.map some

theorem enumerates : s.Enumerates order external where
  perm := s.ordered_perm order external
  stable tied htied := Order.filter_stableSort_of_ties tied s.standings fun a b ha hb =>
    StandingOrder.not_before_of_inOrder (htied a b ha hb) (htied b a hb ha)
  place className i := s.atRank?_add_one i order className external
  beyond := s.atRank?_eq_none_iff order external
  ranks := s.map_atRank?_perm order external

variable {s order external}

/-- Neighbours are in order but for cars at the greatest position, which have the key of those that
are unclassified. -/
theorem isChain_ordered_iff (hrange : ∀ x ∈ s.standings,
      x.position ≤ Text.maxSigned32 ∧ x.livePosition ≤ Text.maxSigned32) :
    (s.ordered order external).IsChain (order.InOrder external) ↔
      s.standings.Pairwise order.GreatestAhead := by
  by_cases horder : order.IsByPosition
  · have : Trans (order.InOrder external) (order.InOrder external) (order.InOrder external) :=
      ⟨StandingOrder.inOrder_trans horder⟩
    have hbefore : ∀ a ∈ s.standings, ∀ b ∈ s.standings,
        order.before external a b = true → order.InOrder external a b := fun _ _ b hb =>
      StandingOrder.inOrder_of_before horder (hrange b hb).1 (hrange b hb).2
    rw [List.isChain_iff_pairwise, ordered,
      Order.pairwise_stableSort_iff (strictWeak_before horder external) hbefore]
    exact List.Pairwise.iff fun {_ _} => StandingOrder.inOrder_of_ties_iff horder
  · refine iff_of_true ?_ (List.pairwise_iff_forall_sublist.2 fun _ => ?_)
    · exact (Order.isChain_stableSort (order.asymm_before external) s.standings).imp
        fun _ _ => StandingOrder.inOrder_of_not_before horder
    · cases order with
      | position | livePosition | classPosition => exact absurd trivial horder
      | fastestLap | points | trackPosition => trivial

/-- Each order lists all cars once, its ranks go through them, and neighbours are in the order of
its key exactly if no unclassified car is listed ahead of one at the greatest position. -/
theorem orders_enumerate (s : Session) (hrange : ∀ x ∈ s.standings,
      x.position ≤ Text.maxSigned32 ∧ x.livePosition ≤ Text.maxSigned32) (external : External)
    (order : StandingOrder) :
    s.Enumerates order external ∧
      ((s.ordered order external).IsChain (order.InOrder external) ↔
        s.standings.Pairwise order.GreatestAhead) :=
  ⟨s.enumerates order external, isChain_ordered_iff hrange⟩

theorem orders_enumerate_sample :
    (∀ x ∈ mixedClasses.standings,
        x.position ≤ Text.maxSigned32 ∧ x.livePosition ≤ Text.maxSigned32) ∧
      (∀ (external : External) (order : StandingOrder), mixedClasses.Enumerates order external) ∧
      (mixedClasses.ordered .position .empty).map (·.position) = [1, 2, 3, 2147483647, 0] ∧
      (mixedClasses.ordered .position .empty).IsChain (StandingOrder.InOrder .position .empty) := by
  have hrange : ∀ x ∈ mixedClasses.standings,
      x.position ≤ Text.maxSigned32 ∧ x.livePosition ≤ Text.maxSigned32 := by decide
  have hlisted : mixedClasses.standings.Pairwise (StandingOrder.GreatestAhead .position) := by
    unfold StandingOrder.GreatestAhead
    decide
  refine ⟨hrange, fun external order => (orders_enumerate mixedClasses hrange external order).1,
    by decide, ?_⟩
  exact (orders_enumerate mixedClasses hrange .empty .position).2.2 hlisted

/-- A car at the greatest position stays behind the unclassified one that is listed ahead of it. -/
theorem unclassified_listed_first :
    (greatestBehind.ordered .position .empty).map (·.position) = [0, 2147483647] ∧
      ¬ (greatestBehind.ordered .position .empty).IsChain
        (StandingOrder.InOrder .position .empty) := by
  refine ⟨by decide, ?_⟩
  rw [isChain_ordered_iff (by decide)]
  intro h
  have hahead := (List.pairwise_cons.1 h).1 _ List.mem_cons_self
  exact hahead (by decide) rfl

end Session

end RaceOverlay
