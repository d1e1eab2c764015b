import Mathlib.Data.Set.Card
import RaceOverlay.External.Rows
import RaceOverlay.Proofs.DistinctKeys

/-!
# The table of points

Driver rows give columns and points to ids. The last row of an id counts for its columns, the first
one with points for its points, and every one with points for the ranking. These are one mapping
only if no row with points stands before another row of its id.
-/
namespace RaceOverlay.External

/-- The points that a column of the driver's columns shows. -/
def columnPoints? (e : External) (column : Nat) (user : Int) : Option Int := do
  let field ← (e.driverColumns user)[column]?
  Text.signed32? (Text.trimChars field.toList)

/-- Columns, points and ranking agree on what the points of an id are. -/
structure OneMapping (e : External) (column : Nat) : Prop where
  columns : ∀ user p, e.points? user = some p → e.columnPoints? column user = some p
  once : ∀ user p, e.points? user = some p →
    e.ranking.countP (fun entry => entry.1 == user) = 1
  place : ∀ user p, e.points? user = some p →
    ∃ i : Nat, e.ranking[i]? = some (user, p) ∧ e.rank? user = some (i + 1)
  count : e.rankedCount = {user | (e.points? user).isSome}.ncard

/-- No row with points stands before another row of its id. -/
def PointsLast (column : Nat) (rows : List Row) : Prop :=
  rows.Pairwise fun a b => (rowPoints? column a).isSome → a.1 ≠ b.1

section Ranked

variable {e : External}

theorem mem_of_points? {user p : Int} (h : e.points? user = some p) : (user, p) ∈ e.points := by
  obtain ⟨before, after, hpoints, -⟩ := List.lookup_eq_some_iff.1 h
  rw [hpoints]
  exact List.mem_append_right _ List.mem_cons_self

theorem isSome_points?_iff (e : External) (user : Int) :
    (e.points? user).isSome ↔ user ∈ e.points.map (·.1) := by
  constructor
  · intro h
    obtain ⟨p, hp⟩ := Option.isSome_iff_exists.1 h
    exact List.mem_map.2 ⟨_, mem_of_points? hp, rfl⟩
  · intro h
    obtain ⟨entry, hentry, rfl⟩ := List.mem_map.1 h
    rw [Option.isSome_iff_ne_none]
    intro hnone
    have hne := List.lookup_eq_none_iff.1 hnone entry hentry
    simp at hne

/-- The ranking has the ids of the table, as often as the table has them. -/
theorem countP_ranking (e : External) (user : Int) :
    e.ranking.countP (fun entry => entry.1 == user) = (e.points.map (·.1)).count user := by
  rw [e.ranking_perm.countP_eq, List.count_eq_countP, List.countP_map]
  rfl

variable (hids : (e.points.map (·.1)).Nodup)
include hids

theorem countP_ranking_of_nodup {user p : Int} (h : e.points? user = some p) :
    e.ranking.countP (fun entry => entry.1 == user) = 1 := by
  rw [countP_ranking]
  exact List.count_eq_one_of_mem hids (List.mem_map.2 ⟨_, mem_of_points? h, rfl⟩)

theorem place_of_nodup {user p : Int} (h : e.points? user = some p) :
    ∃ i : Nat, e.ranking[i]? = some (user, p) ∧ e.rank? user = some (i + 1) := by
  have hranking : (e.ranking.map (·.1)).Nodup := (e.ranking_perm.map _).nodup_iff.2 hids
  obtain ⟨i, hi, hentry⟩ := List.mem_iff_getElem.1 (e.ranking_perm.mem_iff.2 (mem_of_points? h))
  have hfound := Order.findIdx?_key hranking hi
  rw [hentry] at hfound
  refine ⟨i, List.getElem?_eq_some_iff.2 ⟨hi, hentry⟩, ?_⟩
  rw [rank?, hfound]
  rfl

theorem rankedCount_of_nodup : e.rankedCount = {user | (e.points? user).isSome}.ncard := by
  have hset : {user | (e.points? user).isSome} = ((e.points.map (·.1)).toFinset : Set Int) := by
    ext user
    simp [isSome_points?_iff]
  rw [hset, Set.ncard_coe_finset, List.toFinset_card_of_nodup hids, List.length_map]
  rfl

end Ranked

section Rows

variable {column : Nat} {rows : List Row}

private theorem fst_of_rowPoints? {row : Row} {entry : Int × Int}
    (h : rowPoints? column row = some entry) : entry.1 = row.1 := by
  simp only [rowPoints?, Option.bind_eq_bind, Option.bind_eq_some_iff] at h
  obtain ⟨field, -, points, -, hentry⟩ := h
  rw [← Option.some.inj hentry]

/-- The columns of an id are those of a row that no other one of its id follows. -/
theorem columnsOf_last (before : List Row) (row : Row) (after : List Row)
    (h : ∀ r ∈ after, row.1 ≠ r.1) : columnsOf (before ++ row :: after) row.1 = row.2 := by
  have hlookup : (before ++ row :: after).reverse.lookup row.1 = some row.2 := by
    refine List.lookup_eq_some_iff.2 ⟨after.reverse, before.reverse, by simp, fun r hr => ?_⟩
    simpa using h r (List.mem_reverse.1 hr)
  rw [columnsOf, hlookup]
  rfl

end Rows

section Tables

variable {drivers teams : List Row} {column : Nat}

theorem points_ofRows (drivers teams : List Row) (hcolumn : 0 < column) :
    (ofRows drivers teams column).points = drivers.filterMap (rowPoints? column) :=
  if_neg (Nat.ne_of_gt hcolumn)

theorem columnPoints?_last (before : List Row) (row : Row) (after : List Row) (column : Nat)
    (teams : List Row) (h : ∀ r ∈ after, row.1 ≠ r.1) :
    ((ofRows (before ++ row :: after) teams column).columnPoints? column row.1).map (row.1, ·) =
      rowPoints? column row := by
  have hcolumns : (ofRows (before ++ row :: after) teams column).driverColumns row.1 = row.2 :=
    columnsOf_last before row after h
  rw [columnPoints?, hcolumns, rowPoints?]
  cases row.2[column]? with
  | none => rfl
  | some field =>
    simp only [Option.bind_eq_bind, Option.bind_some]
    cases Text.signed32? (Text.trimChars field.toList) with
    | none => rfl
    | some points => rfl

/-- Rows with points that are the last ones of their ids have different ids. -/
theorem nodup_points_of_pointsLast (teams : List Row) (hcolumn : 0 < column)
    (h : PointsLast column drivers) :
    ((ofRows drivers teams column).points.map (·.1)).Nodup := by
  rw [points_ofRows drivers teams hcolumn]
  refine List.pairwise_map.2 (List.pairwise_filterMap.2 (h.imp fun {a b} hab x hx y hy => ?_))
  rw [fst_of_rowPoints? hx, fst_of_rowPoints? hy]
  exact hab (by rw [hx]; rfl)

theorem columnPoints?_of_pointsLast (hcolumn : 0 < column) (h : PointsLast column drivers)
    {user p : Int} (hp : (ofRows drivers teams column).points? user = some p) :
    (ofRows drivers teams column).columnPoints? column user = some p := by
  have hmem := mem_of_points? hp
  rw [points_ofRows drivers teams hcolumn] at hmem
  obtain ⟨row, hrow, hentry⟩ := List.mem_filterMap.1 hmem
  obtain rfl : user = row.1 := fst_of_rowPoints? hentry
  obtain ⟨before, after, rfl⟩ := List.append_of_mem hrow
  have hafter : ∀ r ∈ after, row.1 ≠ r.1 := fun r hr => by
    have hlast := (List.pairwise_append.1 h).2.1
    exact (List.pairwise_cons.1 hlast).1 r hr (by rw [hentry]; rfl)
  have hcolumns := columnPoints?_last before row after column teams hafter
  rw [hentry] at hcolumns
  obtain ⟨q, hq, he⟩ := Option.map_eq_some_iff.1 hcolumns
  rw [hq, (Prod.mk.inj he).2]

/-- Otherwise some row with points stands before the last row of its id. -/
theorem exists_last_of_not_pointsLast (h : ¬ PointsLast column drivers) :
    ∃ before row between last after, drivers = before ++ row :: (between ++ last :: after) ∧
      (rowPoints? column row).isSome ∧ last.1 = row.1 ∧ ∀ r ∈ after, last.1 ≠ r.1 := by
  induction drivers with
  | nil => exact absurd .nil h
  | cons row rows ih =>
    by_cases hrows : PointsLast column rows
    · have hfollowed : ¬ ∀ b ∈ rows, (rowPoints? column row).isSome → row.1 ≠ b.1 :=
        fun hrow => h (List.pairwise_cons.2 ⟨hrow, hrows⟩)
      push Not at hfollowed
      obtain ⟨b, hb, hpoints, hids⟩ := hfollowed
      obtain ⟨between, last, after, rfl, hlast, hafter⟩ := Order.exists_last_key ⟨b, hb, hids.symm⟩
      refine ⟨[], row, between, last, after, rfl, hpoints, hlast, fun r hr hsame => ?_⟩
      exact hafter r hr (hsame.symm.trans hlast)
    · obtain ⟨before, first, between, last, after, rfl, hfacts⟩ := ih hrows
      exact ⟨row :: before, first, between, last, after, rfl, hfacts⟩

/-- If the columns of an id show its points, then its last row has points; and if the id is ranked
once, no other row of it has any. -/
theorem pointsLast_of_oneMapping (hcolumn : 0 < column)
    (h : (ofRows drivers teams column).OneMapping column) : PointsLast column drivers := by
  by_contra hnot
  obtain ⟨before, row, between, last, after, rfl, hpoints, hids, hafter⟩ :=
    exists_last_of_not_pointsLast hnot
  obtain ⟨⟨user, first⟩, hrow⟩ := Option.isSome_iff_exists.1 hpoints
  obtain rfl : user = row.1 := fst_of_rowPoints? hrow
  have htable := points_ofRows (before ++ row :: (between ++ last :: after)) teams hcolumn
  have hsome : ((ofRows (before ++ row :: (between ++ last :: after)) teams column).points?
      row.1).isSome := by
    rw [isSome_points?_iff, htable]
    simp [List.filterMap_cons, hrow]
  obtain ⟨p, hp⟩ := Option.isSome_iff_exists.1 hsome
  have hlast : rowPoints? column last = some (row.1, p) := by
    have hcolumns := columnPoints?_last (before ++ row :: between) last after column teams hafter
    rw [List.append_assoc, List.cons_append, hids, h.columns row.1 p hp] at hcolumns
    exact hcolumns.symm
  have honce := h.once row.1 p hp
  rw [countP_ranking, htable] at honce
  simp only [List.filterMap_append, List.filterMap_cons, hrow, hlast, List.map_append,
    List.map_cons, List.count_append, List.count_cons_self] at honce
  omega

end Tables

/-- Columns, points and ranking of a table with points are one mapping if and only if no row with
points stands before another row of its id. -/
theorem oneMapping_ofRows_iff (drivers teams : List Row) (column : Nat) (hcolumn : 0 < column) :
    (ofRows drivers teams column).OneMapping column ↔ PointsLast column drivers := by
  refine ⟨pointsLast_of_oneMapping hcolumn, fun h => ?_⟩
  have hids := nodup_points_of_pointsLast teams hcolumn h
  exact {
    columns := fun _ _ hp => columnPoints?_of_pointsLast hcolumn h hp
    once := fun _ _ hp => countP_ranking_of_nodup hids hp
    place := fun _ _ hp => place_of_nodup hids hp
    count := rankedCount_of_nodup hids }

/-- Points of three drivers, one of whom has an earlier row without points. -/
def championshipRows : List Row :=
  [(12, ["Rookie", "40"]), (7, ["Veteran", "-"]), (9, ["Guest", "40"]), (7, ["Veteran", " 55 "])]

theorem oneMapping_ofRows_iff_sample :
    0 < 1 ∧ PointsLast 1 championshipRows ∧ (ofRows championshipRows [] 1).OneMapping 1 := by
  have hlast : PointsLast 1 championshipRows := by
    unfold PointsLast
    decide
  exact ⟨Nat.one_pos, hlast, (oneMapping_ofRows_iff championshipRows [] 1 Nat.one_pos).2 hlast⟩

/-- A driver with two rows has the points of the first, the columns of the second, both entries in
the ranking, and the place of the better one. -/
theorem repeated_row_splits_mapping :
    rows? (Text.toUtf8 "7;A;10\n7;B;20\n") = some ([(7, ["A", "10"]), (7, ["B", "20"])], []) ∧
      let e := ofRows [(7, ["A", "10"]), (7, ["B", "20"])] [] 1
      e.points? 7 = some 10 ∧ e.driverColumns 7 = ["B", "20"] ∧ e.columnPoints? 1 7 = some 20 ∧
        e.ranking = [(7, 20), (7, 10)] ∧ e.rank? 7 = some 1 ∧ e.rankedCount = 2 ∧
        ¬ e.OneMapping 1 := by
  refine ⟨by decide, by decide, by decide, by decide, by decide, by decide, by decide, fun h => ?_⟩
  exact absurd (h.columns 7 10 (by decide)) (by decide)

end RaceOverlay.External
