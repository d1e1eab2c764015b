import RaceOverlay.Proofs.SingleClass

/-!
# The car that an interval is taken from

An interval looks up the rank before the car's own position. In a session of different positions a
position is a rank only while nobody is missing: each position ahead that no car holds moves the
lookup one car back, from the car directly ahead to the car itself and then to those behind it. So
the count of the free positions says which car it is.
-/
namespace RaceOverlay

namespace Session

/-- All cars are classified, each at a position of its own. -/
structure DistinctPositions (s : Session) : Prop where
  positive : ∀ x ∈ s.standings, 0 < x.position
  nodup : (s.standings.map (·.position)).Nodup

/-- How many of the positions ahead of one are held by no car. -/
def freeAhead (s : Session) (position : Int) : Nat :=
  (places (position - 1).toNat).countP fun p => decide (p ∉ s.standings.map (·.position))

theorem freeAhead_eq_zero_iff (s : Session) (position : Int) :
    s.freeAhead position = 0 ↔
      ∀ p, 1 ≤ p → p < position → ∃ x ∈ s.standings, x.position = p := by
  have hplace (p : Int) : p ∈ places (position - 1).toNat ↔ 1 ≤ p ∧ p < position := by
    rw [mem_places]
    omega
  rw [freeAhead, List.countP_eq_zero]
  constructor
  · intro h p hlo hhi
    have hheld := h p ((hplace p).2 ⟨hlo, hhi⟩)
    rw [decide_eq_true_eq, not_not] at hheld
    exact List.mem_map.1 hheld
  · intro h p hp
    obtain ⟨hlo, hhi⟩ := (hplace p).1 hp
    rw [decide_eq_true_eq, not_not]
    exact List.mem_map.2 (h p hlo hhi)

section Ascending

variable {ps : List Int} (hps : ps.Pairwise (· < ·)) (hpos : ∀ p ∈ ps, 0 < p) {i : Nat}
  (hi : i < ps.length)
include hps hpos

/-- The positions ahead that are held are those of the cars ahead. -/
private theorem filter_places_perm :
    ((places (ps[i] - 1).toNat).filter fun p => decide (p ∈ ps)).Perm (ps.take i) := by
  have hlt {j k : Nat} (hj : j < ps.length) (hk : k < ps.length) (hjk : j < k) : ps[j] < ps[k] :=
    List.pairwise_iff_getElem.1 hps j k hj hk hjk
  have hnodup : (ps.take i).Nodup := (hps.imp fun hab => hab.ne).sublist (List.take_sublist i ps)
  refine (List.perm_ext_iff_of_nodup ((nodup_places _).filter _) hnodup).2 fun p => ?_
  rw [List.mem_filter, mem_places, decide_eq_true_eq, List.mem_take_iff_getElem]
  constructor
  · rintro ⟨⟨hlo, hhi⟩, hp⟩
    obtain ⟨j, hj, rfl⟩ := List.mem_iff_getElem.1 hp
    refine ⟨j, ?_, rfl⟩
    by_contra hij
    rcases Nat.lt_or_eq_of_le (show i ≤ j by omega) with hlater | rfl
    · have hafter := hlt hi hj hlater
      omega
    · omega
  · rintro ⟨j, hj, rfl⟩
    have hbefore := hlt (by omega) hi (show j < i by omega)
    have hfirst := hpos _ (List.getElem_mem (show j < ps.length by omega))
    exact ⟨by omega, List.getElem_mem _⟩

/-- A position counts the cars ahead and the free positions ahead, from one. -/
private theorem getElem_eq_add_countP :
    ps[i] = i + 1 + ((places (ps[i] - 1).toNat).countP fun p => decide (p ∉ ps) : Nat) := by
  have hheld : (places (ps[i] - 1).toNat).countP (fun p => decide (p ∈ ps)) = i := by
    rw [List.countP_eq_length_filter, (filter_places_perm hps hpos hi).length_eq, List.length_take]
    omega
  have hall := List.length_eq_countP_add_countP (fun p => decide (p ∈ ps))
    (l := places (ps[i] - 1).toNat)
  simp only [decide_eq_true_eq] at hall
  have hown := hpos _ (List.getElem_mem hi)
  rw [length_places, hheld] at hall
  omega

end Ascending

namespace DistinctPositions

variable {s : Session} (h : s.DistinctPositions) (external : External)
include h

private theorem pairwise_lt :
    ((s.ordered .position external).map (·.position)).Pairwise (· < ·) := by
  have hnodup := ((s.ordered_perm .position external).map (·.position)).nodup_iff.2 h.nodup
  exact ((pairwise_map_stableSort h.positive).and hnodup).imp fun hab => lt_of_le_of_ne hab.1 hab.2

theorem position_getElem {i : Nat} (hi : i < (s.ordered .position external).length) :
    (s.ordered .position external)[i].position =
      i + 1 + s.freeAhead (s.ordered .position external)[i].position := by
  have hperm := (s.ordered_perm .position external).map (·.position)
  have hpos : ∀ p ∈ (s.ordered .position external).map (·.position), 0 < p := by
    intro p hp
    obtain ⟨x, hx, rfl⟩ := List.mem_map.1 (hperm.mem_iff.1 hp)
    exact h.positive x hx
  have hown := getElem_eq_add_countP (h.pairwise_lt external) hpos (by rwa [List.length_map])
  rw [List.getElem_map] at hown
  simp only [hperm.mem_iff] at hown
  exact hown

end DistinctPositions

end Session

namespace StandingView

/-- The car at a place of the order by position. -/
def carAt? (v : StandingView) (i : Nat) : Option Standing :=
  (v.session.ordered .position v.scene.external)[i]?

variable {v : StandingView}

theorem atRank?_eq_carAt? (v : StandingView) (i : Nat) :
    v.session.atRank? (i + 1) .position none v.scene.external = v.carAt? i := by
  rw [Session.atRank?_add_one, carAt?]
  congr 1
  exact List.filter_eq_self.2 fun _ _ => rfl

section Places

variable (h : v.session.DistinctPositions) {i : Nat} (hi : v.carAt? (i + 1) = some v.standing)
include h hi

theorem position_eq_add_freeAhead :
    v.standing.position = i + 2 + v.session.freeAhead v.standing.position := by
  obtain ⟨hlength, hcar⟩ := List.getElem?_eq_some_iff.1 hi
  have hposition := h.position_getElem v.scene.external hlength
  rw [hcar] at hposition
  omega

theorem aheadOf_position :
    v.aheadOf v.standing.position none =
      v.carAt? (i + v.session.freeAhead v.standing.position) := by
  have hposition := position_eq_add_freeAhead h hi
  have hrank : v.standing.position - 1 =
      ((i + v.session.freeAhead v.standing.position : Nat) : Int) + 1 := by omega
  rw [aheadOf, if_pos (by omega), hrank, atRank?_eq_carAt?]

theorem isLeader_eq_false : v.isLeader = false := by
  have hposition := position_eq_add_freeAhead h hi
  exact decide_eq_false (by omega)

/-- Cars at different places have different positions. -/
theorem carAt?_eq_iff (n : Nat) : v.carAt? (i + n) = v.carAt? i ↔ n = 0 := by
  obtain ⟨hlength, -⟩ := List.getElem?_eq_some_iff.1 hi
  constructor
  · intro heq
    have hinside : i < (v.session.ordered .position v.scene.external).length := by omega
    rw [carAt?, carAt?, List.getElem?_eq_getElem hinside] at heq
    obtain ⟨hbeyond, hcar⟩ := List.getElem?_eq_some_iff.1 heq
    by_contra hn
    have hlt := List.pairwise_iff_getElem.1 (h.pairwise_lt v.scene.external) i (i + n)
      (by rwa [List.length_map]) (by rwa [List.length_map]) (by omega)
    rw [List.getElem_map, List.getElem_map, hcar] at hlt
    exact absurd hlt (lt_irrefl _)
  · rintro rfl
    rfl

end Places

/-- The two intervals are taken from the car that is behind the one directly ahead by as many places
as there are free positions ahead. It is the car directly ahead exactly if there are none. -/
theorem intervals_by_free_positions (v : StandingView) (h : v.session.DistinctPositions) (i : Nat)
    (hi : v.carAt? (i + 1) = some v.standing) :
    let compared := v.carAt? (i + v.session.freeAhead v.standing.position)
    v.text .interval = v.intervalText compared false ∧
      v.text .intervalTime = v.intervalTimeText compared false ∧
      (compared = v.carAt? i ↔ ∀ p, 1 ≤ p → p < v.standing.position →
        ∃ x ∈ v.session.standings, x.position = p) := by
  have hahead := aheadOf_position h hi
  have hleader := isLeader_eq_false h hi
  refine ⟨?_, ?_, ?_⟩
  · show v.intervalText (v.aheadOf v.standing.position none) v.isLeader = _
    rw [hahead, hleader]
  · show v.intervalTimeText (v.aheadOf v.standing.position none) v.isLeader = _
    rw [hahead, hleader]
  · exact (carAt?_eq_iff h hi _).trans (v.session.freeAhead_eq_zero_iff _)

/-- Three classified cars, with free positions before the second and before the third. -/
def missingPlaces : Session where
  standings := [
    { driver := { car := 7 }, position := 7 },
    { driver := { car := 4 }, position := 1 },
    { driver := { car := 1 }, position := 3 }]

def missingPlacesView (standing : Standing) : StandingView where
  scene := ⟨{ sessions := [missingPlaces] }, {}, .empty, .standard, clockText⟩
  session := missingPlaces
  standing
  rounding := .full

def secondCar : StandingView := missingPlacesView { driver := { car := 1 }, position := 3 }

def thirdCar : StandingView := missingPlacesView { driver := { car := 7 }, position := 7 }

/-- A car with one free position ahead is compared with itself. -/
theorem intervals_by_free_positions_sample :
    secondCar.session.DistinctPositions ∧ secondCar.carAt? 1 = some secondCar.standing ∧
      secondCar.text .interval = secondCar.intervalText (some secondCar.standing) false ∧
      secondCar.text .intervalTime = secondCar.intervalTimeText (some secondCar.standing) false ∧
      ¬ ∀ p, 1 ≤ p → p < secondCar.standing.position →
        ∃ x ∈ secondCar.session.standings, x.position = p := by
  have hdistinct : secondCar.session.DistinctPositions := ⟨by decide, by decide⟩
  have hplace : secondCar.carAt? (0 + 1) = some secondCar.standing := rfl
  have hcompared : secondCar.carAt? (0 + secondCar.session.freeAhead secondCar.standing.position) =
      some secondCar.standing := rfl
  obtain ⟨hinterval, htime, -⟩ := intervals_by_free_positions secondCar hdistinct 0 hplace
  rw [hcompared] at hinterval htime
  refine ⟨hdistinct, hplace, hinterval, htime, fun hheld => ?_⟩
  obtain ⟨x, hx, hposition⟩ := hheld 2 (by decide) (by decide)
  exact absurd hposition ((by decide : ∀ x ∈ missingPlaces.standings, x.position ≠ 2) x hx)

/-- The second car is compared with itself. The third one is compared with no car and has no text,
where the second one ahead of it calls for one. -/
theorem interval_of_missing_places :
    (missingPlaces.standings.map (·.driver.car)).Nodup ∧ missingPlaces.DistinctPositions ∧
      secondCar.carAt? 1 = some secondCar.standing ∧
      secondCar.aheadOf secondCar.standing.position none = some secondCar.standing ∧
      thirdCar.carAt? 1 = some secondCar.standing ∧ thirdCar.carAt? 2 = some thirdCar.standing ∧
      thirdCar.text .interval = "" ∧
      thirdCar.intervalText (some secondCar.standing) false = "invalid" := by
  refine ⟨by decide, ⟨by decide, by decide⟩, rfl, rfl, rfl, rfl, ?_, ?_⟩
  · decide +kernel
  · decide +kernel

end StandingView

end RaceOverlay
