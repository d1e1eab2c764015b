import RaceOverlay.Fields.Standing
import RaceOverlay.Proofs.ClassRanks
import RaceOverlay.Proofs.FloatOrder

/-!
# Sessions of a single class

In a session of one class whose positions are the numbers from one on, the rank of a car in its
class is its position. So the class leader is the leader, the car ahead in the class is the car
ahead, and the class fields repeat the overall ones. Outside races the two gaps are taken from
different laps, the fastest of the session and the leader's; they agree where these laps are equal.
-/
namespace RaceOverlay

section Deficits

open Float.Model (UnpackedFloat Format pack)
open Float.Model.UnpackedFloat (sub)

/-- Only a difference from a zero shows the sign of the zero that is taken away. -/
private theorem sub_zero_eq {x : UnpackedFloat} (hx : ∀ sign, x ≠ .zero sign)
    (s t : UnpackedFloat.Sign) :
    sub Format.binary64 x (.zero s) = sub Format.binary64 x (.zero t) := by
  cases x with
  | zero sign => exact absurd rfl (hx sign)
  | notANumber | infinity _ | finite _ _ _ _ => rfl

private theorem le_one_of_zero {x : Float} {sign : UnpackedFloat.Sign}
    (h : x.toModel.unpack = .zero sign) : x ≤ 1.0 := by
  have hone : ∃ m e hm, (1.0 : Float).toModel.unpack = .finite .positive m e hm :=
    ⟨_, _, _, by rfl⟩
  obtain ⟨m, e, hm, hone⟩ := hone
  show decide (x.toModel.unpack.le (1.0 : Float).toModel.unpack = true) = true
  rw [h, hone]
  rfl

private theorem sub_eq_of_beq {x a b : Float} (hx : ¬ x ≤ 1.0) (h : (a == b) = true) :
    x - a = x - b := by
  have hcompare : a.toModel.unpack.compare b.toModel.unpack = some .eq := eq_of_beq h
  have hsub : sub Format.binary64 x.toModel.unpack a.toModel.unpack =
      sub Format.binary64 x.toModel.unpack b.toModel.unpack := by
    rcases eq_or_zeros_of_compare hcompare with heq | ⟨s, t, hs, ht⟩
    · rw [heq]
    · rw [hs, ht]
      exact sub_zero_eq (fun sign hz => hx (le_one_of_zero hz)) s t
  show Float.ofModel (pack _) = Float.ofModel (pack _)
  rw [hsub]

end Deficits

namespace Session

/-- The numbers from one on. -/
def places (n : Nat) : List Int := (List.range n).map fun i : Nat => (i : Int) + 1

theorem mem_places {n : Nat} {p : Int} : p ∈ places n ↔ 1 ≤ p ∧ p ≤ n := by
  rw [places, List.mem_map]
  constructor
  · rintro ⟨i, hi, rfl⟩
    have hlt := List.mem_range.1 hi
    omega
  · rintro ⟨hlo, hhi⟩
    exact ⟨p.toNat - 1, List.mem_range.2 (by omega), by omega⟩

theorem nodup_places (n : Nat) : (places n).Nodup :=
  List.nodup_range.map fun i j hij => by omega

theorem length_places (n : Nat) : (places n).length = n := by
  rw [places, List.length_map, List.length_range]

theorem getElem?_places {n i : Nat} (hi : i < n) : (places n)[i]? = some ((i : Int) + 1) := by
  rw [places, List.getElem?_map, List.getElem?_range hi]
  rfl

private theorem pairwise_places (n : Nat) : (places n).Pairwise (· ≤ ·) :=
  List.pairwise_map.2 (List.pairwise_lt_range.imp fun hij => by omega)

/-- Different cars of one class, at the positions from one to their number. -/
structure SingleClass (s : Session) (className : String) : Prop where
  ofClass : ∀ x ∈ s.standings, x.driver.className = className
  cars : (s.standings.map (·.driver.car)).Nodup
  positions : (s.standings.map (·.position)).Perm (places s.standings.length)

namespace SingleClass

variable {s : Session} {className : String} (h : s.SingleClass className)
include h

/-- The class leaves nobody out. -/
theorem carsOf_eq : s.carsOf className = s.standings :=
  List.filter_eq_self.2 fun x hx => beq_iff_eq.2 (h.ofClass x hx)

theorem atRank?_class (rank : Int) (order : StandingOrder) (external : External) :
    s.atRank? rank order (some className) external = s.atRank? rank order none external := by
  have hall : (s.ordered order external).filter (isOfClass (some className)) =
      (s.ordered order external).filter (isOfClass none) := by
    refine List.filter_congr fun x hx => ?_
    have hmem := (s.ordered_perm order external).mem_iff.1 hx
    exact beq_iff_eq.2 (h.ofClass x hmem)
  rw [atRank?, atRank?, hall]

theorem position_pos {x : Standing} (hx : x ∈ s.standings) : 0 < x.position := by
  have hmem := mem_places.1 (h.positions.mem_iff.1 (List.mem_map_of_mem hx))
  omega

/-- Sorted by position, the cars are at the positions from one on. -/
theorem map_position_classOrdered :
    (s.classOrdered className (·.position)).map (·.position) = places s.standings.length := by
  have hperm := s.classOrdered_perm className (·.position)
  rw [h.carsOf_eq] at hperm
  have hpos : ∀ x ∈ s.carsOf className, 0 < x.position := by
    rw [h.carsOf_eq]
    exact fun x hx => h.position_pos hx
  have hle := pairwise_map_stableSort hpos
  exact ((hperm.map _).trans h.positions).eq_of_pairwise (fun a b _ _ => le_antisymm) hle
    (pairwise_places _)

theorem position_getElem {i : Nat} (hi : i < (s.classOrdered className (·.position)).length) :
    (s.classOrdered className (·.position))[i].position = i + 1 := by
  have hlength : i < s.standings.length := by
    rwa [(s.classOrdered_perm className (·.position)).length_eq, h.carsOf_eq] at hi
  have hget := getElem?_places hlength
  rw [← h.map_position_classOrdered, List.getElem?_map, List.getElem?_eq_getElem hi] at hget
  exact Option.some.inj hget

theorem classPosition_eq {x : Standing} (hx : x ∈ s.standings) :
    s.classPosition x.driver = x.position := by
  have hcars : ((s.carsOf className).map (·.driver.car)).Nodup := by
    rw [h.carsOf_eq]
    exact h.cars
  have hmem : x ∈ s.carsOf className := by
    rw [h.carsOf_eq]
    exact hx
  obtain ⟨i, hi, rfl, hrank⟩ := exists_place hcars hmem (·.position)
  rw [h.position_getElem hi]
  exact hrank

/-- The car in position one is the leader. -/
theorem exists_leader {x : Standing} (hx : x ∈ s.standings) (external : External) :
    ∃ l ∈ s.standings, l.position = 1 ∧
      s.classLeader? className = some l ∧ s.atRank? 1 .position none external = some l := by
  have hperm := s.classOrdered_perm className (·.position)
  rw [h.carsOf_eq] at hperm
  have hi : 0 < (s.classOrdered className (·.position)).length :=
    List.length_pos_of_mem (hperm.mem_iff.2 hx)
  have hfirst : s.atRank? ((0 : Nat) + 1) .position (some className) external =
      some (s.classOrdered className (·.position))[0] := by
    rw [atRank?_succ rfl, List.getElem?_eq_getElem hi]
  have hleader := s.classLeader?_eq_atRank? className external
  refine ⟨_, hperm.mem_iff.1 (List.getElem_mem hi), h.position_getElem hi, ?_, ?_⟩
  · exact hleader.trans hfirst
  · rw [← h.atRank?_class]
    exact hfirst

end SingleClass

/-- The rank of a driver is that of the car, whichever session the driver is taken from. -/
theorem classRank_congr (s : Session) {d e : Driver} (hclass : d.className = e.className)
    (hcar : d.car = e.car) (position : Standing → Int) :
    s.classRank d position = s.classRank e position := by
  rw [classRank, classRank, hclass, hcar]

end Session

namespace StandingView

variable {v : StandingView}

private theorem lapDeficit_eq_of_beq {a b : Float} (h : (a == b) = true) :
    v.lapDeficit a = v.lapDeficit b := by
  unfold lapDeficit
  by_cases hlap : v.standing.fastestLap ≤ noLap
  · rw [if_pos hlap, if_pos hlap]
  · rw [if_neg hlap, if_neg hlap, sub_eq_of_beq hlap h]

/-- In races no lap time is asked for. -/
theorem gapText_congr (leader : Option Standing) (isLeader : Bool) {a b : Float}
    (h : v.isRace = true ∨ (a == b) = true) :
    v.gapText leader isLeader a = v.gapText leader isLeader b := by
  unfold gapText
  rcases h with hrace | hlaps
  · rw [hrace, if_pos rfl, if_pos rfl]
  · rw [lapDeficit_eq_of_beq hlaps]

section SingleClass

variable (h : v.session.SingleClass v.standing.driver.className)
  (hmem : v.standing ∈ v.session.standings)
include h hmem

theorem classPosition_eq_position : v.classPosition = v.standing.position :=
  h.classPosition_eq hmem

theorem isClassLeader_eq_isLeader : v.isClassLeader = v.isLeader := by
  rw [isClassLeader, isLeader, classPosition_eq_position h hmem]

theorem classInterval_eq_interval : v.classInterval = v.interval := by
  have hahead : v.aheadOf v.classPosition (some v.standing.driver.className) =
      v.aheadOf v.standing.position none := by
    unfold aheadOf
    rw [classPosition_eq_position h hmem, h.atRank?_class]
  rw [classInterval, interval, hahead, isClassLeader_eq_isLeader h hmem]

theorem classGap_eq_gap
    (hlaps : v.isRace = true ∨ ∀ x ∈ v.session.standings, x.position = 1 →
      (v.session.fastestLap == x.fastestLap) = true) : v.classGap = v.gap := by
  obtain ⟨l, hl, hposition, hclass, hfirst⟩ := h.exists_leader hmem v.scene.external
  have hbest : v.isRace = true ∨ (v.session.fastestLap == l.fastestLap) = true :=
    hlaps.imp_right fun heq => heq l hl hposition
  rw [classGap, gap, hclass, hfirst, isClassLeader_eq_isLeader h hmem]
  exact (gapText_congr (some l) v.isLeader hbest).symm

end SingleClass

theorem startPositions?_of_entry {q : Session} {entry : Standing}
    (hq : v.scene.weekend.sessionOfKind? .qualify = some q)
    (hentry : q.standing? v.standing.driver.car = some entry) :
    v.startPositions? = some (entry.position, q.classPosition v.standing.driver) := by
  simp only [startPositions?, hq, hentry, Option.bind_eq_bind, Option.bind_some]
  rfl

/-- In a qualifying session of the class the car has one start position, both in the class and
overall. -/
theorem startPositions?_eq {q : Session} {entry : Standing}
    (hq : v.scene.weekend.sessionOfKind? .qualify = some q)
    (h : q.SingleClass v.standing.driver.className) (hentry : entry ∈ q.standings)
    (hcar : entry.driver.car = v.standing.driver.car) :
    v.startPositions? = some (entry.position, entry.position) := by
  have hfound : q.standing? v.standing.driver.car = some entry :=
    (Order.find?_key_eq_some_iff h.cars).2 ⟨hentry, hcar⟩
  have hrank : q.classPosition v.standing.driver = entry.position := by
    have hclass := h.ofClass entry hentry
    rw [← h.classPosition_eq hentry]
    exact (q.classRank_congr hclass hcar (·.position)).symm
  rw [startPositions?_of_entry hq hfound, hrank]

/-- The class fields of a car in a session of a single class repeat the overall fields. The gaps
agree in races, and elsewhere if the fastest lap of the session is that of the car in position one.
The start positions and gains agree if the qualifying session is of this class and has the car.
Positions are numbers of 32 bits. -/
theorem class_fields_repeat_overall (v : StandingView)
    (h : v.session.SingleClass v.standing.driver.className)
    (hmem : v.standing ∈ v.session.standings) :
    v.text .classPosition = v.text .position ∧
      v.text .classPositionOrd = v.text .positionOrd ∧
      v.text .classInterval = v.text .interval ∧
      ((v.isRace = true ∨ ∀ x ∈ v.session.standings, x.position = 1 →
        (v.session.fastestLap == x.fastestLap) = true) → v.text .classGap = v.text .gap) ∧
      ∀ q entry, v.scene.weekend.sessionOfKind? .qualify = some q →
        q.SingleClass v.standing.driver.className → entry ∈ q.standings →
        entry.driver.car = v.standing.driver.car →
          v.text .startPosition = toString entry.position ∧
            v.text .classStartPosition = v.text .startPosition ∧
            (entry.position ≤ Text.maxSigned32 → v.standing.position ≤ Text.maxSigned32 →
              v.text .classPositionGain = v.text .positionGain) := by
  have hposition := classPosition_eq_position h hmem
  refine ⟨?_, ?_, classInterval_eq_interval h hmem, classGap_eq_gap h hmem, ?_⟩
  · show toString v.classPosition = toString v.standing.position
    rw [hposition]
  · show ordinal v.classPosition = ordinal v.standing.position
    rw [hposition]
  · intro q entry hq hsingle hentry hcar
    have hstart := startPositions?_eq hq hsingle hentry hcar
    refine ⟨?_, ?_, fun hstartRange hrange => ?_⟩
    · simp only [text, startText, hstart]
    · simp only [text, startText, hstart]
    · have hgain : wrapped32 (entry.position - v.standing.position) =
          entry.position - v.standing.position := by
        have hstartPos := hsingle.position_pos hentry
        have hpos := h.position_pos hmem
        have hmin : Text.minSigned32 = -Text.maxSigned32 - 1 := rfl
        exact wrapped32_of_within (by omega) (by omega)
      simp only [text, startText, hstart, hposition, hgain]

/-- Three cars of one class, the last of them a lap down. -/
def cupRace : Session where
  kind := some .race
  standings := [
    { driver := { car := 4, className := "Cup" }, position := 2, previousLap := { gap := 2.0 } },
    { driver := { car := 1, className := "Cup" }, position := 3, previousLap := { gapLaps := 1 } },
    { driver := { car := 7, className := "Cup" }, position := 1 }]

def cupQualifying : Session where
  id := 1
  kind := some .qualify
  standings := [
    { driver := { car := 1, className := "Cup" }, position := 1 },
    { driver := { car := 4, className := "Cup" }, position := 2 }]

/-- The car that is a lap down, as the labels show it. -/
def cupView : StandingView where
  scene := ⟨{ sessions := [cupRace, cupQualifying] }, {}, .empty, .standard, clockText⟩
  session := cupRace
  standing :=
    { driver := { car := 1, className := "Cup" }, position := 3, previousLap := { gapLaps := 1 } }
  rounding := .full

theorem class_fields_repeat_overall_sample :
    cupView.session.SingleClass cupView.standing.driver.className ∧
      cupView.standing ∈ cupView.session.standings ∧ cupView.isRace = true ∧
      cupQualifying.SingleClass cupView.standing.driver.className ∧
      cupView.text .classPosition = "3" ∧ cupView.text .classPositionOrd = "3rd" ∧
      cupView.text .classInterval = cupView.text .interval ∧ cupView.text .classGap = "+1 lap" ∧
      cupView.text .classStartPosition = "1" ∧ cupView.text .classPositionGain = "-2" := by
  have hrace : cupView.session.SingleClass cupView.standing.driver.className :=
    ⟨by decide, by decide, by decide⟩
  have hqualifying : cupQualifying.SingleClass cupView.standing.driver.className :=
    ⟨by decide, by decide, by decide⟩
  have hmem : cupView.standing ∈ cupView.session.standings :=
    List.mem_cons_of_mem _ List.mem_cons_self
  obtain ⟨hposition, hord, hinterval, hgap, hstart⟩ :=
    class_fields_repeat_overall cupView hrace hmem
  obtain ⟨hfirst, hclass, hgain⟩ :=
    hstart cupQualifying _ rfl hqualifying List.mem_cons_self rfl
  refine ⟨hrace, hmem, rfl, hqualifying, hposition.trans (by decide), hord.trans (by decide),
    hinterval, (hgap (.inl rfl)).trans (by decide), hclass.trans hfirst,
    (hgain (by decide) (by decide)).trans (by decide)⟩

end StandingView

end RaceOverlay
