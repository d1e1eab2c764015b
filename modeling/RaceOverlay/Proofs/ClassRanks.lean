import Mathlib.Data.Set.Operations
import RaceOverlay.Proofs.DistinctKeys
import RaceOverlay.Weekend.Ranking

/-!
# Ranks in a class

A car has three ways to its place in its class: its rank, the lookup of a rank in an order of the
session, and the leader. All three read the same list, which is the class sorted by position. The
one thing that a position does not decide is a tie at the greatest key: a car at the greatest
position shares it with the unclassified cars.
-/
namespace RaceOverlay

namespace Session

variable {s : Session} {className : String} {position : Standing → Int}

theorem positionKey_of_pos {p : Int} (h : 0 < p) : positionKey p = p := if_pos h

theorem positionKey_of_not_pos {p : Int} (h : p ≤ 0) : positionKey p = Text.maxSigned32 :=
  if_neg (Int.not_lt.2 h)

/-- The cars of a class, in the order of the session. -/
def carsOf (s : Session) (className : String) : List Standing :=
  s.standings.filter (isOfClass (some className))

theorem className_of_mem {x : Standing} (hx : x ∈ s.carsOf className) :
    x.driver.className = className := eq_of_beq (List.mem_filter.1 hx).2

theorem classOrdered_perm (s : Session) (className : String) (position : Standing → Int) :
    (s.classOrdered className position).Perm (s.carsOf className) := Order.stableSort_perm _ _

/-- A car is ahead by a position if its key is less. -/
def ahead (position : Standing → Int) (a b : Standing) : Bool :=
  decide (positionKey (position a) < positionKey (position b))

theorem strictWeak_ahead (position : Standing → Int) : Order.StrictWeak (ahead position) :=
  .ofKey fun x => positionKey (position x)

/-- Positions that are all positive ascend where cars are sorted by them. -/
theorem pairwise_map_stableSort {xs : List Standing} (hpos : ∀ x ∈ xs, 0 < position x) :
    ((Order.stableSort (ahead position) xs).map position).Pairwise (· ≤ ·) := by
  have hperm := Order.stableSort_perm (ahead position) xs
  have hascending := Order.ascending_stableSort (strictWeak_ahead position) xs
  refine List.pairwise_map.2 (hascending.imp_of_mem fun {a b} ha hb hab => ?_)
  have hkey := of_decide_eq_false hab
  rw [positionKey_of_pos (hpos a (hperm.mem_iff.1 ha)),
    positionKey_of_pos (hpos b (hperm.mem_iff.1 hb))] at hkey
  omega

/-- A car shares its key with the unclassified cars, or is one of them. -/
def hasGreatestKey (position : Standing → Int) (x : Standing) : Bool :=
  positionKey (position x) == Text.maxSigned32

/-- Sorting leaves the cars with the greatest key as they are. -/
theorem filter_hasGreatestKey (position : Standing → Int) (xs : List Standing) :
    (Order.stableSort (ahead position) xs).filter (hasGreatestKey position) =
      xs.filter (hasGreatestKey position) := by
  refine Order.filter_stableSort_of_ties _ _ ?_
  intro a b ha hb
  rw [ahead, eq_of_beq ha, eq_of_beq hb]
  exact decide_eq_false (Int.lt_irrefl _)

theorem ascending_classOrdered (s : Session) (className : String) (position : Standing → Int) :
    Order.Ascending (ahead position) (s.classOrdered className position) :=
  Order.ascending_stableSort (strictWeak_ahead position) _

/-- An order of the session by a position, restricted to a class, is the order of the class. -/
theorem filter_ordered {order : StandingOrder} {external : External}
    (horder : order.before external = ahead position) :
    (s.ordered order external).filter (isOfClass (some className)) =
      s.classOrdered className position := by
  rw [ordered, horder, Order.filter_stableSort (strictWeak_ahead position)]
  rfl

theorem atRank?_succ {order : StandingOrder} {external : External}
    (horder : order.before external = ahead position) (i : Nat) :
    s.atRank? (i + 1) order (some className) external =
      (s.classOrdered className position)[i]? := by
  rw [atRank?_add_one, filter_ordered horder]

/-- The leader of a class is the first car in the order of the class. -/
theorem classLeader?_eq_atRank? (s : Session) (className : String) (external : External) :
    s.classLeader? className = s.atRank? 1 .position (some className) external := by
  have hfirst : s.atRank? ((0 : Nat) + 1) .position (some className) external =
      (s.classOrdered className (·.position))[0]? := atRank?_succ rfl 0
  rw [classLeader?, ← Order.head?_stableSort, List.head?_eq_getElem?]
  exact hfirst.symm

/-- Cars without a classification rank behind all cars with one. -/
def UnclassifiedLast (s : Session) (className : String) (rank : Driver → Int)
    (position : Standing → Int) : Prop :=
  ∀ a ∈ s.carsOf className, ∀ b ∈ s.carsOf className,
    position a ≤ 0 → 0 < position b → rank b.driver < rank a.driver

/-- No car at the greatest position is listed behind a car without a classification. -/
def GreatestAhead (s : Session) (className : String) (position : Standing → Int) : Prop :=
  (s.carsOf className).Pairwise fun a b => position a ≤ 0 → position b ≠ Text.maxSigned32

theorem positionKey_le {p : Int} (h : p ≤ Text.maxSigned32) : positionKey p ≤ Text.maxSigned32 := by
  unfold positionKey
  split <;> omega

/-- Of two positions with one key, the first an unclassified one, the second is unclassified or the
greatest. -/
theorem unclassified_of_ties_iff {p q : Int} :
    (decide (positionKey p < positionKey q) = false →
      decide (positionKey q < positionKey p) = false → p ≤ 0 → q ≤ 0) ↔
      (p ≤ 0 → q ≠ Text.maxSigned32) := by
  constructor
  · intro h hp hq
    have hkey : positionKey p = positionKey q := by
      rw [positionKey_of_not_pos hp, hq]
      rfl
    have hq' := h (decide_eq_false (by omega)) (decide_eq_false (by omega)) hp
    rw [hq] at hq'
    exact absurd hq' (by decide)
  · intro h hpq hqp hp
    by_contra hq
    have hle := of_decide_eq_false hpq
    have hge := of_decide_eq_false hqp
    rw [positionKey_of_not_pos hp, positionKey_of_pos (Int.not_le.1 hq)] at hle hge
    exact h hp (by omega)

/-- Only two cars with the greatest key can break this, and these are in the order of the class as
they are in the session. -/
theorem greatestAhead_iff_classOrdered
    (hrange : ∀ x ∈ s.carsOf className, position x ≤ Text.maxSigned32) :
    s.GreatestAhead className position ↔
      (s.classOrdered className position).Pairwise fun a b => position a ≤ 0 → position b ≤ 0 := by
  have hahead : ∀ a ∈ s.carsOf className, ∀ b ∈ s.carsOf className,
      ahead position a b = true → position a ≤ 0 → position b ≤ 0 := by
    intro a _ b hb hab ha
    have hkey := of_decide_eq_true hab
    have hgreatest := positionKey_le (hrange b hb)
    rw [positionKey_of_not_pos ha] at hkey
    omega
  have hsorted := Order.pairwise_stableSort_iff (strictWeak_ahead position) hahead
  rw [GreatestAhead]
  exact (List.Pairwise.iff fun {_ _} => unclassified_of_ties_iff.symm).trans hsorted.symm

section Ranks

variable (hcars : ((s.carsOf className).map (·.driver.car)).Nodup)
include hcars

/-- With different cars, a car's rank counts its place in the order of the class from one. -/
theorem classRank_getElem {i : Nat} (hi : i < (s.classOrdered className position).length) :
    s.classRank (s.classOrdered className position)[i].driver position = i + 1 := by
  have hperm := s.classOrdered_perm className position
  have hname := className_of_mem (hperm.mem_iff.1 (List.getElem_mem hi))
  have hnodup := (hperm.map (·.driver.car)).nodup_iff.2 hcars
  rw [classRank, hname, Order.findIdx?_key hnodup hi]
  rfl

/-- The places of the order of the class are the ranks less one. -/
theorem exists_place {x : Standing} (hx : x ∈ s.carsOf className) (position : Standing → Int) :
    ∃ (i : Nat) (hi : i < (s.classOrdered className position).length),
      (s.classOrdered className position)[i] = x ∧ s.classRank x.driver position = i + 1 := by
  obtain ⟨i, hi, rfl⟩ :=
    List.mem_iff_getElem.1 ((s.classOrdered_perm className position).mem_iff.2 hx)
  exact ⟨i, hi, rfl, classRank_getElem hcars hi⟩

theorem eq_of_classRank_eq {a b : Standing} (ha : a ∈ s.carsOf className)
    (hb : b ∈ s.carsOf className)
    (h : s.classRank a.driver position = s.classRank b.driver position) : a = b := by
  obtain ⟨i, hi, rfl, hri⟩ := exists_place hcars ha position
  obtain ⟨j, hj, rfl, hrj⟩ := exists_place hcars hb position
  obtain rfl : i = j := by omega
  rfl

theorem atRank?_classRank {order : StandingOrder} {external : External}
    (horder : order.before external = ahead position)
    {x : Standing} (hx : x ∈ s.carsOf className) :
    s.atRank? (s.classRank x.driver position) order (some className) external = some x := by
  obtain ⟨i, hi, hxi, hrank⟩ := exists_place hcars hx position
  rw [hrank, atRank?_succ horder, List.getElem?_eq_getElem hi, hxi]

theorem bijOn_classRank (position : Standing → Int) :
    Set.BijOn (fun x => s.classRank x.driver position) {x | x ∈ s.carsOf className}
      {r | 1 ≤ r ∧ r ≤ ((s.carsOf className).length : Int)} := by
  have hperm := s.classOrdered_perm className position
  have hlength := hperm.length_eq
  refine ⟨fun x hx => ?_, fun a ha b hb h => eq_of_classRank_eq hcars ha hb h, fun r hr => ?_⟩
  · obtain ⟨i, hi, -, hrank⟩ := exists_place hcars hx position
    simp only [Set.mem_ofPred_eq, hrank]
    omega
  · obtain ⟨hlo, hhi⟩ := hr
    have hi : r.toNat - 1 < (s.classOrdered className position).length := by omega
    refine ⟨_, hperm.mem_iff.1 (List.getElem_mem hi), ?_⟩
    have hrank := classRank_getElem hcars hi
    dsimp only
    omega

/-- Along the order of a class holds what holds of each car and those of a greater rank. -/
theorem pairwise_classOrdered_iff {r : Standing → Standing → Prop} :
    (s.classOrdered className position).Pairwise r ↔
      ∀ a ∈ s.carsOf className, ∀ b ∈ s.carsOf className,
        s.classRank a.driver position < s.classRank b.driver position → r a b := by
  have hperm := s.classOrdered_perm className position
  rw [List.pairwise_iff_getElem]
  constructor
  · intro h a ha b hb hab
    obtain ⟨i, hi, rfl, hri⟩ := exists_place hcars ha position
    obtain ⟨j, hj, rfl, hrj⟩ := exists_place hcars hb position
    exact h i j hi hj (by omega)
  · intro h i j hi hj hij
    have hri := classRank_getElem hcars hi
    have hrj := classRank_getElem hcars hj
    exact h _ (hperm.mem_iff.1 (List.getElem_mem hi)) _ (hperm.mem_iff.1 (List.getElem_mem hj))
      (by omega)

/-- A lesser key is a lesser rank. -/
theorem classRank_lt_of_key_lt {a b : Standing} (ha : a ∈ s.carsOf className)
    (hb : b ∈ s.carsOf className)
    (h : positionKey (position a) < positionKey (position b)) :
    s.classRank a.driver position < s.classRank b.driver position := by
  obtain ⟨i, hi, rfl, hri⟩ := exists_place hcars ha position
  obtain ⟨j, hj, rfl, hrj⟩ := exists_place hcars hb position
  have hij := (ascending_classOrdered s className position).lt_of_lt
    (strictWeak_ahead position) hi hj (decide_eq_true h)
  omega

/-- Unclassified cars are last unless one of them is listed ahead of a car that has their key. -/
theorem unclassifiedLast_iff (hrange : ∀ x ∈ s.carsOf className, position x ≤ Text.maxSigned32) :
    s.UnclassifiedLast className (s.classRank · position) position ↔
      s.GreatestAhead className position := by
  rw [greatestAhead_iff_classOrdered hrange, pairwise_classOrdered_iff hcars]
  -- Both sides now compare ranks, once from the unclassified car and once from the classified one.
  constructor
  · intro h a ha b hb hab hunclassified
    by_contra hclassified
    have hba := h a ha b hb hunclassified (by omega)
    dsimp only at hba
    omega
  · intro h a ha b hb hunclassified hclassified
    by_contra hba
    rcases Int.lt_or_eq_of_le (Int.not_lt.1 hba) with hlt | heq
    · exact absurd (h a ha b hb hlt hunclassified) (by omega)
    · obtain rfl := eq_of_classRank_eq hcars ha hb heq
      omega

end Ranks

/-- A ranking of a class by a position: the car with a rank is the one that the order finds there,
the ranks count the cars from one, and a better position is a better rank. -/
structure RanksClass (s : Session) (external : External) (className : String)
    (rank : Driver → Int) (position : Standing → Int) (order : StandingOrder) : Prop where
  found : ∀ x ∈ s.carsOf className,
    s.atRank? (rank x.driver) order (some className) external = some x
  bijOn : Set.BijOn (fun x => rank x.driver) {x | x ∈ s.carsOf className}
    {r | 1 ≤ r ∧ r ≤ ((s.carsOf className).length : Int)}
  better : ∀ a ∈ s.carsOf className, ∀ b ∈ s.carsOf className,
    0 < position a → position a < position b → rank a.driver < rank b.driver

theorem ranksClass_classRank {order : StandingOrder} {external : External}
    (horder : order.before external = ahead position)
    (hcars : ((s.carsOf className).map (·.driver.car)).Nodup) :
    s.RanksClass external className (s.classRank · position) position order where
  found _ hx := atRank?_classRank hcars horder hx
  bijOn := bijOn_classRank hcars position
  better a ha b hb hpos hab := by
    refine classRank_lt_of_key_lt hcars ha hb ?_
    rwa [positionKey_of_pos hpos, positionKey_of_pos (Int.lt_trans hpos hab)]

/-- Both rankings of a class agree with the lookup of ranks, as does the leader of every class.
Positions are 32-bit numbers. With the greatest of them a car may fall behind unclassified ones. -/
theorem class_rankings_agree (s : Session) (external : External) (className : String)
    (hcars : ((s.carsOf className).map (·.driver.car)).Nodup)
    (hrange : ∀ x ∈ s.carsOf className,
      x.position ≤ Text.maxSigned32 ∧ x.livePosition ≤ Text.maxSigned32) :
    s.RanksClass external className s.classPosition (·.position) .position ∧
      s.RanksClass external className s.classLivePosition (·.livePosition) .livePosition ∧
      (s.UnclassifiedLast className s.classPosition (·.position) ↔
        s.GreatestAhead className (·.position)) ∧
      (s.UnclassifiedLast className s.classLivePosition (·.livePosition) ↔
        s.GreatestAhead className (·.livePosition)) ∧
      ∀ name, s.classLeader? name = s.atRank? 1 .position (some name) external ∧
        (s.classLeader? name = none ↔ s.carsOf name = []) :=
  ⟨ranksClass_classRank rfl hcars, ranksClass_classRank rfl hcars,
    unclassifiedLast_iff hcars fun x hx => (hrange x hx).1,
    unclassifiedLast_iff hcars fun x hx => (hrange x hx).2,
    fun name => ⟨s.classLeader?_eq_atRank? name external, Order.least?_eq_none_iff _ _⟩⟩

/-- Two classes in turn, with a tie, an unclassified car and a car at the greatest position. -/
def mixedClasses : Session where
  standings := [
    { driver := { car := 4, className := "GT3" }, position := 2147483647, livePosition := 3 },
    { driver := { car := 1, className := "LMP2" }, position := 1, livePosition := 1 },
    { driver := { car := 7, className := "GT3" }, position := 2, livePosition := 2 },
    { driver := { car := 3, className := "LMP2" }, position := 3, livePosition := 4 },
    { driver := { car := 2, className := "GT3" }, position := 0, livePosition := 2 }]

theorem class_rankings_agree_sample :
    ((mixedClasses.carsOf "GT3").map (·.driver.car)).Nodup ∧
      (∀ x ∈ mixedClasses.carsOf "GT3",
        x.position ≤ Text.maxSigned32 ∧ x.livePosition ≤ Text.maxSigned32) ∧
      mixedClasses.RanksClass .empty "GT3" mixedClasses.classPosition (·.position) .position ∧
      mixedClasses.RanksClass .empty "GT3" mixedClasses.classLivePosition (·.livePosition)
        .livePosition ∧
      (mixedClasses.UnclassifiedLast "GT3" mixedClasses.classPosition (·.position) ↔
        mixedClasses.GreatestAhead "GT3" (·.position)) ∧
      (mixedClasses.UnclassifiedLast "GT3" mixedClasses.classLivePosition (·.livePosition) ↔
        mixedClasses.GreatestAhead "GT3" (·.livePosition)) ∧
      ∀ name, mixedClasses.classLeader? name =
          mixedClasses.atRank? 1 .position (some name) .empty ∧
        (mixedClasses.classLeader? name = none ↔ mixedClasses.carsOf name = []) := by
  have hcars : ((mixedClasses.carsOf "GT3").map (·.driver.car)).Nodup := by decide
  have hrange : ∀ x ∈ mixedClasses.carsOf "GT3",
      x.position ≤ Text.maxSigned32 ∧ x.livePosition ≤ Text.maxSigned32 := by decide
  exact ⟨hcars, hrange, class_rankings_agree mixedClasses .empty "GT3" hcars hrange⟩

/-- A car at the greatest position, listed behind an unclassified one. -/
def greatestBehind : Session where
  standings := [
    { driver := { car := 1, className := "GT3" }, position := 0, livePosition := 1 },
    { driver := { car := 2, className := "GT3" }, position := 2147483647, livePosition := 2 }]

/-- The unclassified car is ahead of the other one. -/
theorem unclassified_ahead_of_greatest :
    ((greatestBehind.carsOf "GT3").map (·.driver.car)).Nodup ∧
      greatestBehind.standings.map (fun x => (x.position, greatestBehind.classPosition x.driver)) =
        [(0, 1), (2147483647, 2)] ∧
      ¬ greatestBehind.UnclassifiedLast "GT3" greatestBehind.classPosition (·.position) := by
  refine ⟨by decide, by decide, ?_⟩
  unfold UnclassifiedLast
  decide

end Session

end RaceOverlay
