import RaceOverlay.Order.Index
import RaceOverlay.Proofs.PointsOrder

/-!
# Ranks by counting

The ranking of a table of points is sorted, and ties stay in the order of the table. So where the
ids are different, the rank of a driver can be counted in the table itself: one more than the
entries with more points and the earlier ones with as many. The ranks are the numbers from one to
the number of entries, and the rank shown for a driver without points is behind all of them.
-/
namespace RaceOverlay.External

variable {e : External}

theorem pairwise_ranking (e : External) : e.ranking.Pairwise fun a b => b.2 ≤ a.2 :=
  e.ascending_ranking.imp fun hab => Int.not_lt.1 (of_decide_eq_false hab)

private theorem filter_ranking (e : External) (p : Int) :
    e.ranking.filter (fun x => x.2 == p) = e.points.filter fun x => x.2 == p := by
  refine Order.filter_stableSort_of_ties _ _ fun a b ha hb => ?_
  rw [eq_of_beq ha, eq_of_beq hb]
  exact decide_eq_false (Int.lt_irrefl p)

/-- The ranking is the table read at the indices that sort its points. -/
theorem ranking_eq_sortedIndices (e : External) :
    e.ranking.map some =
      (Order.sortedIndices (fun p q : Int => decide (p < q)) .descending
        (e.points.map (·.2))).map fun i => e.points[i]? := by
  let hasMore (a b : Int × Int) : Bool := decide (b.2 < a.2)
  let numbered := Order.stableSort (fun a b => hasMore a.1 b.1) e.points.zipIdx
  have hentries : numbered.map (·.1) = e.ranking := by
    have hsorted : numbered.map (·.1) = Order.stableSort hasMore (e.points.zipIdx.map (·.1)) :=
      Order.map_stableSort (fun _ _ => rfl) _
    rwa [List.zipIdx_map_fst] at hsorted
  have hindices : Order.sortedIndices (fun p q : Int => decide (p < q)) .descending
      (e.points.map (·.2)) = numbered.map (·.2) := by
    let points (x : (Int × Int) × Nat) : Int × Nat := (x.1.2, x.2)
    let before (a b : Int × Nat) : Bool :=
      Order.Direction.descending.before (fun p q : Int => decide (p < q)) a.1 b.1
    have hcompare (a b : (Int × Int) × Nat) : before (points a) (points b) = hasMore a.1 b.1 :=
      rfl
    have hsorted : numbered.map points = Order.stableSort before (e.points.zipIdx.map points) :=
      Order.map_stableSort hcompare _
    have hpoints : (e.points.map (·.2)).zipIdx = e.points.zipIdx.map points := List.zipIdx_map
    rw [Order.sortedIndices, hpoints, ← hsorted, List.map_map]
    rfl
  rw [← hentries, hindices, List.map_map, List.map_map]
  refine List.map_congr_left fun x hx => ?_
  have hmem := (Order.stableSort_perm _ _).mem_iff.1 hx
  exact (List.mem_zipIdx_iff_getElem?.1 hmem).symm

/-- How many entries are ahead of an id with some points: those with more, and those with as many
that the table has before the id. -/
def countAhead (e : External) (user p : Int) : Nat :=
  e.points.countP (fun x => decide (p < x.2)) +
    (e.points.takeWhile fun x => x.1 != user).countP fun x => x.2 == p

section Places

variable {user p : Int} {ahead behind before after : List (Int × Int)}

/-- As many entries stand ahead of one in the ranking as have more points, or as many and an earlier
place in the table. -/
private theorem length_ahead (hnodup : e.points.Nodup)
    (hranking : e.ranking = ahead ++ (user, p) :: behind)
    (hpoints : e.points = before ++ (user, p) :: after) :
    ahead.length =
      e.points.countP (fun x => decide (p < x.2)) + before.countP fun x => x.2 == p := by
  have hdescending := e.pairwise_ranking
  rw [hranking, List.pairwise_append, List.pairwise_cons] at hdescending
  obtain ⟨-, ⟨hbehind, -⟩, hahead⟩ := hdescending
  have hmore : e.points.countP (fun x => decide (p < x.2)) =
      ahead.countP fun x => decide (p < x.2) := by
    have hnone : ((user, p) :: behind).countP (fun x => decide (p < x.2)) = 0 := by
      rw [List.countP_eq_zero]
      intro x hx
      rcases List.mem_cons.1 hx with rfl | hx
      · simp
      · have hle := hbehind x hx
        simp only [decide_eq_true_eq]
        omega
    rw [← e.ranking_perm.countP_eq, hranking, List.countP_append, hnone, Nat.add_zero]
  have htied : ahead.countP (fun x => x.2 == p) = before.countP fun x => x.2 == p := by
    have hsplit := e.filter_ranking p
    rw [hranking, hpoints, List.filter_append, List.filter_append,
      List.filter_cons_of_pos (by simp), List.filter_cons_of_pos (by simp)] at hsplit
    have honce {as bs : List (Int × Int)} (h : (as ++ (user, p) :: bs).Nodup) : (user, p) ∉ as :=
      fun hmem => (List.nodup_cons.1 (List.nodup_middle.1 h)).1 (List.mem_append_left bs hmem)
    have hnotAhead : (user, p) ∉ ahead := honce (hranking ▸ e.ranking_perm.nodup_iff.2 hnodup)
    have hnotBefore : (user, p) ∉ before := honce (hpoints ▸ hnodup)
    rw [List.countP_eq_length_filter, List.countP_eq_length_filter]
    exact Order.length_eq_of_append_cons hsplit (fun h => hnotAhead (List.mem_filter.1 h).1)
      fun h => hnotBefore (List.mem_filter.1 h).1
  have hothers : ahead.countP (fun x => decide ¬ decide (p < x.2) = true) =
      ahead.countP fun x => x.2 == p := by
    refine List.countP_congr fun x hx => ?_
    have hle : p ≤ x.2 := hahead x hx _ List.mem_cons_self
    simp only [decide_eq_true_eq, beq_iff_eq]
    omega
  rw [hmore, ← htied, ← hothers]
  exact List.length_eq_countP_add_countP _

end Places

section DifferentIds

variable (hids : (e.points.map (·.1)).Nodup)
include hids

theorem rank?_eq_countAhead {user p : Int} (h : e.points? user = some p) :
    e.rank? user = some (e.countAhead user p + 1) := by
  obtain ⟨before, after, hpoints, hbefore⟩ := List.lookup_eq_some_iff.1 h
  obtain ⟨ahead, behind, hranking⟩ :=
    List.append_of_mem (e.ranking_perm.mem_iff.2 (mem_of_points? h))
  have hplace : e.rank? user = some (ahead.length + 1) := by
    have hnodup : (e.ranking.map (·.1)).Nodup := (e.ranking_perm.map _).nodup_iff.2 hids
    have hi : ahead.length < e.ranking.length := by
      rw [hranking, List.length_append, List.length_cons]
      omega
    have hentry : e.ranking[ahead.length] = (user, p) := by simp [hranking]
    have hfound := Order.findIdx?_key hnodup hi
    rw [hentry] at hfound
    rw [rank?, hfound]
    rfl
  have hearlier : e.points.takeWhile (fun x => x.1 != user) = before := by
    rw [hpoints, List.takeWhile_append_of_pos]
    · simp
    · intro x hx
      have hne := hbefore x hx
      simp only [bne_iff_ne, ne_eq]
      rintro rfl
      simp at hne
  rw [hplace, length_ahead (hids.of_map _) hranking hpoints, countAhead, hearlier]

/-- The ranks of the ids are the numbers from one to the number of entries, each of them once. -/
theorem bijOn_rank : Set.BijOn (fun user => (e.rank? user).getD 0)
    {user | (e.points? user).isSome} {r | 1 ≤ r ∧ r ≤ e.rankedCount} := by
  have hplace (user : Int) (hranked : (e.points? user).isSome = true) : ∃ (i : Nat) (p : Int),
      e.ranking[i]? = some (user, p) ∧ (e.rank? user).getD 0 = i + 1 := by
    obtain ⟨p, hp⟩ := Option.isSome_iff_exists.1 hranked
    obtain ⟨i, hi, hrank⟩ := place_of_nodup hids hp
    exact ⟨i, p, hi, by rw [hrank, Option.getD_some]⟩
  have hlength : e.ranking.length = e.rankedCount := e.ranking_perm.length_eq
  refine ⟨fun user hu => ?_, fun user hu other ho hsame => ?_, fun r hr => ?_⟩
  · obtain ⟨i, p, hi, hrank⟩ := hplace user hu
    obtain ⟨hlt, -⟩ := List.getElem?_eq_some_iff.1 hi
    simp only [Set.mem_ofPred_eq, hrank]
    omega
  · obtain ⟨i, p, hi, hrank⟩ := hplace user hu
    obtain ⟨j, q, hj, hother⟩ := hplace other ho
    dsimp only at hsame
    obtain rfl : i = j := by omega
    exact congrArg Prod.fst (Option.some.inj (hi.symm.trans hj))
  · obtain ⟨hlo, hhi⟩ := hr
    have hlt : r - 1 < e.ranking.length := by omega
    have hmem : e.ranking[r - 1] ∈ e.points := e.ranking_perm.mem_iff.1 (List.getElem_mem hlt)
    have hnodup : (e.ranking.map (·.1)).Nodup := (e.ranking_perm.map _).nodup_iff.2 hids
    refine ⟨e.ranking[r - 1].1, (isSome_points?_iff e _).2 (List.mem_map_of_mem hmem), ?_⟩
    dsimp only
    rw [rank?, Order.findIdx?_key hnodup hlt]
    show r - 1 + 1 = r
    omega

/-- What a table with different ids says of its drivers, in numbers and on labels. -/
structure Championship (e : External) : Prop where
  counted : ∀ user p, e.points? user = some p → e.rank? user = some (e.countAhead user p + 1)
  bijOn : Set.BijOn (fun user => (e.rank? user).getD 0) {user | (e.points? user).isSome}
    {r | 1 ≤ r ∧ r ≤ e.rankedCount}
  ranked : ∀ v : StandingView, v.scene.external = e →
    ∀ p, e.points? v.standing.driver.user = some p →
      v.text .points = toString p ∧
        v.text .pointsPos = toString (e.countAhead v.standing.driver.user p + 1)
  unranked : ∀ v : StandingView, v.scene.external = e →
    e.points? v.standing.driver.user = none →
      v.text .points = "0" ∧ v.text .pointsPos = toString (e.rankedCount + 1)
  behind : ∀ user i, e.rank? user = some i → i < e.rankedCount + 1

theorem championship_of_nodup : e.Championship where
  counted _ _ h := rank?_eq_countAhead hids h
  bijOn := bijOn_rank hids
  ranked := by
    rintro v rfl p hp
    obtain ⟨i, hi, hshown⟩ := StandingView.championship_of_points hids hp
    rw [rank?_eq_countAhead hids hp] at hi
    obtain rfl := Option.some.inj hi
    show toString v.championship.1 = _ ∧ toString v.championship.2 = _
    rw [hshown]
    exact ⟨rfl, rfl⟩
  unranked := by
    rintro v rfl hnone
    show toString v.championship.1 = _ ∧ toString v.championship.2 = _
    rw [StandingView.championship_of_none hnone]
    exact ⟨rfl, rfl⟩
  behind _ _ h := Nat.lt_succ_of_le (rank?_le h)

end DifferentIds

/-- The ranking of any table is the table with more points first and ties as they were. With
different ids its places can be counted in the table, and labels show them. -/
theorem ranking_by_counting (e : External) :
    e.ranking.Perm e.points ∧ (e.ranking.Pairwise fun a b => b.2 ≤ a.2) ∧
      (∀ p, e.ranking.filter (fun x => x.2 == p) = e.points.filter fun x => x.2 == p) ∧
      ((e.points.map (·.1)).Nodup → e.Championship) :=
  ⟨e.ranking_perm, e.pairwise_ranking, e.filter_ranking, championship_of_nodup⟩

/-- Three drivers tie, one of whom the table has ahead of the leader. -/
def tiedTable : External := ⟨[], [], [(5, 12), (7, 40), (9, 12), (2, -3), (4, 12)]⟩

theorem ranking_by_counting_sample :
    (tiedTable.points.map (·.1)).Nodup ∧ tiedTable.Championship ∧
      tiedTable.rank? 9 = some (tiedTable.countAhead 9 12 + 1) ∧ tiedTable.countAhead 9 12 = 2 := by
  have hids : (tiedTable.points.map (·.1)).Nodup := by decide
  have hchampionship := (ranking_by_counting tiedTable).2.2.2 hids
  exact ⟨hids, hchampionship, hchampionship.counted 9 12 (by decide), by decide⟩

end RaceOverlay.External
