import RaceOverlay.Fields.Standing
import RaceOverlay.Proofs.PointsTable

/-!
# The order by points and the championship ranks

A label picks a driver by the order of the session and shows the rank of the table. Both put more
points first, and drivers with equal points stay as they are listed, in the session or in the table.
So the two agree on different points, and on equal ones where the two lists do.
-/
namespace RaceOverlay

theorem strictWeak_fewerPoints : Order.StrictWeak fewerPoints where
  asymm a b h := by
    cases a with
    | none => cases b <;> rfl
    | some p =>
      cases b with
      | none => cases h
      | some q =>
        have hpq : p < q := of_decide_eq_true h
        exact decide_eq_false (by omega)
  chain a b c hab hbc := by
    cases c with
    | none => cases a <;> rfl
    | some r =>
      cases b with
      | none => cases hbc
      | some q =>
        cases a with
        | none => cases hab
        | some p =>
          have hpq : ¬ p < q := of_decide_eq_false hab
          have hqr : ¬ q < r := of_decide_eq_false hbc
          exact decide_eq_false (by omega)

namespace External

/-- The table has an id before another one. -/
def ListedBefore (e : External) (user other : Int) : Prop :=
  [user, other].Sublist (e.points.map (·.1))

variable {e : External}

/-- Ranks count the table. -/
theorem rank?_le {user : Int} {i : Nat} (h : e.rank? user = some i) : i ≤ e.rankedCount := by
  obtain ⟨j, hj, rfl⟩ := Option.map_eq_some_iff.1 h
  have hlt := (List.findIdx?_eq_some_iff_getElem.1 hj).1
  rw [e.ranking_perm.length_eq] at hlt
  exact hlt

/-- Entries compare by their points, more of them first. -/
theorem strictWeak_points : Order.StrictWeak fun a b : Int × Int => decide (b.2 < a.2) :=
  (Order.StrictWeak.ofKey fun a : Int × Int => a.2).flip

theorem ascending_ranking (e : External) :
    Order.Ascending (fun a b : Int × Int => decide (b.2 < a.2)) e.ranking :=
  Order.ascending_stableSort strictWeak_points e.points

/-- In the ranking, places run with the points, and with the table where points are equal. -/
private theorem place_lt_iff (hpoints : e.points.Nodup) {k l : Nat} (hk : k < e.ranking.length)
    (hl : l < e.ranking.length) :
    k < l ↔ e.ranking[l].2 < e.ranking[k].2 ∨
      e.ranking[l].2 = e.ranking[k].2 ∧ [e.ranking[k], e.ranking[l]].Sublist e.points := by
  have hlt := strictWeak_points
  have hascending := e.ascending_ranking
  rcases Int.lt_trichotomy e.ranking[l].2 e.ranking[k].2 with hmore | heq | hfewer
  · have hkl : k < l := hascending.lt_of_lt hlt hk hl (decide_eq_true hmore)
    exact iff_of_true hkl (.inl hmore)
  · have hnodup : e.ranking.Nodup := e.ranking_perm.nodup_iff.2 hpoints
    have hplaces := Order.pair_sublist_iff_lt hnodup hk hl
    have htable := Order.pair_sublist_stableSort hlt (a := e.ranking[k]) (b := e.ranking[l])
      (decide_eq_false (by omega)) (decide_eq_false (by omega)) e.points
    rw [← hplaces, ← htable]
    constructor
    · intro h
      exact .inr ⟨heq, h⟩
    · rintro (hmore | ⟨-, h⟩)
      · omega
      · exact h
  · have hlk : l < k := hascending.lt_of_lt hlt hl hk (decide_eq_true hfewer)
    exact iff_of_false (by omega) (by omega)

section DifferentIds

variable (hids : (e.points.map (·.1)).Nodup)
include hids

private theorem pair_sublist_points_iff {user other p q : Int} (hp : e.points? user = some p)
    (hq : e.points? other = some q) :
    [(user, p), (other, q)].Sublist e.points ↔ e.ListedBefore user other := by
  constructor
  · intro h
    exact h.map (·.1)
  · intro h
    obtain ⟨entries, hsub, hmap⟩ := List.sublist_map_iff.1 h
    obtain ⟨x, rest, rfl, hx, hrest⟩ := List.map_eq_cons_iff.1 hmap.symm
    obtain ⟨y, tail, rfl, hy, htail⟩ := List.map_eq_cons_iff.1 hrest
    obtain rfl := List.map_eq_nil_iff.1 htail
    have hxp : x = (user, p) :=
      List.inj_on_of_nodup_map hids (hsub.subset (by simp)) (mem_of_points? hp) hx
    have hyq : y = (other, q) :=
      List.inj_on_of_nodup_map hids (hsub.subset (by simp)) (mem_of_points? hq) hy
    rwa [hxp, hyq] at hsub

/-- Of two ranked drivers the one with more points is ahead, and of two with equal points the one
that the table has first. -/
theorem rank_lt_iff {user other p q : Int} {i j : Nat} (hp : e.points? user = some p)
    (hq : e.points? other = some q) (hi : e.rank? user = some i) (hj : e.rank? other = some j) :
    i < j ↔ q < p ∨ q = p ∧ e.ListedBefore user other := by
  obtain ⟨k, hk, hki⟩ := place_of_nodup hids hp
  obtain ⟨l, hl, hlj⟩ := place_of_nodup hids hq
  obtain rfl : k + 1 = i := Option.some.inj (hki.symm.trans hi)
  obtain rfl : l + 1 = j := Option.some.inj (hlj.symm.trans hj)
  obtain ⟨hklt, hku⟩ := List.getElem?_eq_some_iff.1 hk
  obtain ⟨hllt, hlu⟩ := List.getElem?_eq_some_iff.1 hl
  have hplaces := place_lt_iff (hids.of_map _) hklt hllt
  rw [hku, hlu, pair_sublist_points_iff hids hp hq] at hplaces
  rw [← hplaces]
  omega

end DifferentIds

end External

namespace StandingView

variable {v : StandingView}

theorem championship_of_none (h : v.scene.external.points? v.standing.driver.user = none) :
    v.championship = (0, v.scene.external.rankedCount + 1) := by
  simp only [championship, h]

/-- A driver with points is ranked, so the rank behind all others is not shown. -/
theorem championship_of_points (hids : (v.scene.external.points.map (·.1)).Nodup) {p : Int}
    (h : v.scene.external.points? v.standing.driver.user = some p) :
    ∃ i, v.scene.external.rank? v.standing.driver.user = some i ∧ v.championship = (p, i) := by
  obtain ⟨i, -, hrank⟩ := External.place_of_nodup hids h
  refine ⟨i + 1, hrank, ?_⟩
  simp only [championship, h, hrank, Option.getD_some]

end StandingView

namespace Session

theorem not_fewerPoints_ordered (s : Session) (e : External) :
    (s.ordered .points e).Pairwise fun a b =>
      fewerPoints (e.points? a.driver.user) (e.points? b.driver.user) = false := by
  have hlt : Order.StrictWeak (StandingOrder.points.before e) :=
    (strictWeak_fewerPoints.comap fun x : Standing => e.points? x.driver.user).flip
  exact Order.ascending_stableSort hlt s.standings

/-- What the points and the ranks shown are of a standing and one behind it. Between two drivers
with equal points the ranks follow the table, whichever of the two stands first. -/
structure AheadByPoints (e : External) (shown : Standing → Nat) (a b : Standing) : Prop where
  points : ∀ q, e.points? b.driver.user = some q →
    ∃ p, e.points? a.driver.user = some p ∧ q ≤ p
  ranks : ∀ p q, e.points? a.driver.user = some p → e.points? b.driver.user = some q →
    e.rank? a.driver.user = some (shown a) ∧ e.rank? b.driver.user = some (shown b) ∧
      (shown a < shown b ↔ q < p ∨ e.ListedBefore a.driver.user b.driver.user)
  unranked : e.points? b.driver.user = none → shown b = e.rankedCount + 1
  behindRanked : ∀ p, e.points? a.driver.user = some p → e.points? b.driver.user = none →
    shown a < shown b

/-- The championship rank that a label shows for a standing. -/
def shownRank (s : Session) (scene : Scene) (rounding : Rounding) (x : Standing) : Nat :=
  (StandingView.championship ⟨scene, s, x, rounding⟩).2

/-- The order by points puts drivers with points first and more points before fewer. The ranks shown
run the same way, but for two drivers with equal points whom the table lists the other way round. A
driver without points is shown behind all ranked ones. -/
theorem points_order_agrees_with_ranks (s : Session) (scene : Scene) (rounding : Rounding)
    (hids : (scene.external.points.map (·.1)).Nodup) :
    (s.ordered .points scene.external).Pairwise
      (AheadByPoints scene.external (s.shownRank scene rounding)) := by
  have hranked (x : Standing) (p : Int) (hp : scene.external.points? x.driver.user = some p) :
      scene.external.rank? x.driver.user = some (s.shownRank scene rounding x) := by
    obtain ⟨i, hi, hx⟩ :=
      StandingView.championship_of_points (v := ⟨scene, s, x, rounding⟩) hids hp
    rw [hi, shownRank, hx]
  have hunranked (x : Standing) (hx : scene.external.points? x.driver.user = none) :
      s.shownRank scene rounding x = scene.external.rankedCount + 1 :=
    congrArg Prod.snd (StandingView.championship_of_none (v := ⟨scene, s, x, rounding⟩) hx)
  refine (s.not_fewerPoints_ordered scene.external).imp fun {a b} hab => ?_
  constructor
  case points =>
    intro q hq
    cases hp : scene.external.points? a.driver.user with
    | none =>
      rw [hp, hq] at hab
      cases hab
    | some p =>
      rw [hp, hq] at hab
      have hle : ¬ p < q := of_decide_eq_false hab
      exact ⟨p, rfl, by omega⟩
  case ranks =>
    intro p q hp hq
    rw [hp, hq] at hab
    have hle : ¬ p < q := of_decide_eq_false hab
    have ha := hranked a p hp
    have hb := hranked b q hq
    have hrank := External.rank_lt_iff hids hp hq ha hb
    refine ⟨ha, hb, hrank.trans ⟨fun h => h.imp_right (·.2), fun h => ?_⟩⟩
    by_cases hlt : q < p
    · exact .inl hlt
    · exact h.imp_right fun hlisted => ⟨by omega, hlisted⟩
  case unranked => exact hunranked b
  case behindRanked =>
    intro p hp hnone
    have hle := External.rank?_le (hranked a p hp)
    rw [hunranked b hnone]
    omega

/-- Two drivers with equal points, whom the session lists the other way round than the table does,
and one without points. -/
def tiedStandings : Session where
  standings := [
    { driver := { car := 1, user := 3 } }, { driver := { car := 2, user := 9 } },
    { driver := { car := 3, user := 7 } }, { driver := { car := 4, user := 5 } }]

def tiedScene : Scene :=
  ⟨{ sessions := [tiedStandings] }, {}, ⟨[], [], [(5, 12), (7, 40), (9, 12)]⟩, .standard, clockText⟩

theorem points_order_agrees_with_ranks_sample :
    (tiedScene.external.points.map (·.1)).Nodup ∧
      (tiedStandings.ordered .points tiedScene.external).Pairwise
        (AheadByPoints tiedScene.external (tiedStandings.shownRank tiedScene .full)) := by
  have hids : (tiedScene.external.points.map (·.1)).Nodup := by decide
  exact ⟨hids, points_order_agrees_with_ranks tiedStandings tiedScene .full hids⟩

/-- The driver with rank 3 stands before the one with rank 2. -/
theorem tied_drivers_out_of_rank :
    (tiedStandings.standings.map (·.driver.user)).Nodup ∧
      (tiedScene.external.points.map (·.1)).Nodup ∧
      (tiedStandings.ordered .points tiedScene.external).map
        (fun x => (x.driver.user, tiedStandings.shownRank tiedScene .full x)) =
          [(7, 1), (9, 3), (5, 2), (3, 4)] ∧
      ¬ (tiedStandings.ordered .points tiedScene.external).Pairwise fun a b =>
        ∀ i j, tiedScene.external.rank? a.driver.user = some i →
          tiedScene.external.rank? b.driver.user = some j → i < j := by
  refine ⟨by decide, by decide, by decide, fun h => ?_⟩
  have hlt := List.pairwise_iff_getElem.1 h 1 2 (by decide) (by decide) (by decide) 3 2
    (by decide) (by decide)
  exact absurd hlt (by decide)

end Session

end RaceOverlay
