import Mathlib.Order.Monotone.Basic
import RaceOverlay.Fields.LapCounter

/-!
# The lap counter over a race

A race with a lap limit is told in four stages: laps are counted up, the last ones are counted down,
one is the final lap, and then the race is finishing. Where the counting down starts is a setting of
the theme that no race length bounds. So it may leave out the first stage or the second one, but it
never changes their order, and the last two come in every race.
-/
namespace RaceOverlay

/-- What the lap counter says about a race that has started. -/
inductive LapStage where
  /-- The lap that is being run, counted from one. -/
  | lap (number : Nat)
  /-- The laps that are left. -/
  | remaining (laps : Nat)
  | finalLap
  | finishing
  deriving DecidableEq

namespace LapStage

def text (w : Wording) (limit : Nat) : LapStage → String
  | .lap number => " ".intercalate [w.word .lap, toString number, w.word .of, toString limit]
  | .remaining laps => " ".intercalate [toString laps, w.word .laps, w.word .remaining]
  | .finalLap => w.word .finalLap
  | .finishing => w.word .finishing

/-- The place of a stage in the story of a race. -/
def place : LapStage → Nat
  | .lap _ => 0
  | .remaining _ => 1
  | .finalLap => 2
  | .finishing => 3

/-- The stage of a race after a number of laps. -/
def after (limit : Nat) (countdownFrom : Int) (laps : Nat) : LapStage :=
  if limit ≤ laps then .finishing
  else if laps + 1 = limit then .finalLap
  else if (limit - laps : Nat) ≤ countdownFrom then .remaining (limit - laps)
  else .lap (laps + 1)

/-- The number of laps left at which counting down starts; the final lap is not counted. -/
def firstCounted (limit : Nat) (countdownFrom : Int) : Nat := max 1 (min limit countdownFrom.toNat)

/-- A whole race and some laps more, stage by stage. -/
def story (limit : Nat) (countdownFrom : Int) (more : Nat) : List LapStage :=
  let first := firstCounted limit countdownFrom
  (List.range (limit - first)).map (fun i => .lap (i + 1)) ++
    (List.range (first - 1)).map (fun i => .remaining (first - i)) ++
    .finalLap :: List.replicate more .finishing

variable {limit : Nat} {countdownFrom : Int} {laps : Nat}

theorem after_of_finished (h : limit ≤ laps) : after limit countdownFrom laps = .finishing :=
  if_pos h

theorem after_of_final (h : laps + 1 = limit) : after limit countdownFrom laps = .finalLap := by
  rw [after, if_neg (by omega), if_pos h]

theorem after_of_counted (h : laps + 1 < limit) (hcount : (limit - laps : Nat) ≤ countdownFrom) :
    after limit countdownFrom laps = .remaining (limit - laps) := by
  rw [after, if_neg (by omega), if_neg (by omega), if_pos hcount]

theorem after_of_early (h : laps + 1 < limit) (hcount : ¬ (limit - laps : Nat) ≤ countdownFrom) :
    after limit countdownFrom laps = .lap (laps + 1) := by
  rw [after, if_neg (by omega), if_neg (by omega), if_neg hcount]

/-- Every number of laps belongs to one of the stages. -/
theorem laps_cases (limit : Nat) (countdownFrom : Int) (laps : Nat) :
    limit ≤ laps ∨ laps + 1 = limit ∨
      (laps + 1 < limit ∧ (limit - laps : Nat) ≤ countdownFrom) ∨
      (laps + 1 < limit ∧ ¬ (limit - laps : Nat) ≤ countdownFrom) := by
  omega

/-- The numbers that are shown stay in their bounds. -/
theorem bounds_after (limit : Nat) (countdownFrom : Int) (laps : Nat) :
    match after limit countdownFrom laps with
    | .lap number => 1 ≤ number ∧ number ≤ limit
    | .remaining left => 2 ≤ left ∧ left ≤ countdownFrom
    | .finalLap | .finishing => True := by
  rcases laps_cases limit countdownFrom laps with h | h | ⟨h, hcount⟩ | ⟨h, hcount⟩
  · rw [after_of_finished h]
    trivial
  · rw [after_of_final h]
    trivial
  · rw [after_of_counted h hcount]
    show 2 ≤ limit - laps ∧ _
    omega
  · rw [after_of_early h hcount]
    show 1 ≤ laps + 1 ∧ laps + 1 ≤ limit
    omega

/-- One more lap never leads back. -/
theorem place_after_succ (limit : Nat) (countdownFrom : Int) (laps : Nat) :
    (after limit countdownFrom laps).place ≤ (after limit countdownFrom (laps + 1)).place := by
  rcases laps_cases limit countdownFrom laps with h | h | ⟨h, hcount⟩ | ⟨h, hcount⟩
  · rw [after_of_finished h, after_of_finished (Nat.le_succ_of_le h)]
  · rw [after_of_final h, after_of_finished (Nat.le_of_eq h.symm)]
    decide
  · rw [after_of_counted h hcount]
    -- One lap less is left, so the counting down goes on or the final lap begins.
    by_cases hfinal : laps + 1 + 1 = limit
    · rw [after_of_final hfinal]
      exact Nat.le_succ 1
    · rw [after_of_counted (by omega) (by omega)]
      exact Nat.le_refl 1
  · rw [after_of_early h hcount]
    exact Nat.zero_le _

theorem place_monotone (limit : Nat) (countdownFrom : Int) :
    Monotone fun laps => (after limit countdownFrom laps).place :=
  monotone_nat_of_le_succ (place_after_succ limit countdownFrom)

/-- The stages of a race follow each other as in its story. -/
theorem map_after_range (hlimit : 0 < limit) (countdownFrom : Int) (more : Nat) :
    (List.range (limit + more)).map (after limit countdownFrom) =
      story limit countdownFrom more := by
  have hfirst : firstCounted limit countdownFrom = max 1 (min limit countdownFrom.toNat) := rfl
  unfold story
  generalize firstCounted limit countdownFrom = first at hfirst
  have hsplit : limit + more = limit - first + (first - 1) + (1 + more) := by omega
  have hearly : (List.range (limit - first)).map (after limit countdownFrom) =
      (List.range (limit - first)).map fun i => .lap (i + 1) := by
    refine List.map_congr_left fun i hi => ?_
    rw [List.mem_range] at hi
    apply after_of_early <;> omega
  have hcounted (i : Nat) (hi : i ∈ List.range (first - 1)) :
      after limit countdownFrom (limit - first + i) = .remaining (first - i) := by
    rw [List.mem_range] at hi
    have hleft : limit - (limit - first + i) = first - i := by omega
    rw [← hleft]
    apply after_of_counted <;> omega
  have hfinal : after limit countdownFrom (limit - first + (first - 1) + 0) = .finalLap := by
    apply after_of_final
    omega
  have hfinished (i : Nat) (_ : i ∈ List.range more) :
      after limit countdownFrom (limit - first + (first - 1) + (1 + i)) = .finishing := by
    apply after_of_finished
    omega
  rw [hsplit, List.range_add, List.range_add, List.range_add]
  simp only [List.map_append, List.map_map, Function.comp_def, List.range_one, List.map_cons,
    List.map_nil, hearly, hfinal, List.map_congr_left hcounted, List.map_congr_left hfinished]
  simp only [List.map_const', List.length_range, List.singleton_append]

end LapStage

namespace Session

/-- The session is a race of that many laps, and so many of them are done. The formation is over. -/
structure HasRun (s : Session) (limit laps : Nat) : Prop where
  total : s.lapsTotal = limit
  complete : s.lapsComplete = laps
  remaining : s.lapsRemaining = limit - laps
  not_gridding : s.phase ≠ .gridding
  not_pacing : s.phase ≠ .pacing

variable {s : Session} {limit laps : Nat}

theorem HasRun.lapCounter_eq (h : s.HasRun limit laps) (hlimit : 0 < limit)
    (hmax : limit < Text.maxSigned32) (w : Wording) (countdownFrom : Int) (time : String) :
    s.lapCounter w countdownFrom time = s.runningCounter w countdownFrom := by
  have hone : 1 ≤ s.lapsTotal := by
    rw [h.total]
    omega
  have hne : s.lapsTotal ≠ Text.maxSigned32 := by
    rw [h.total]
    omega
  have hhas : s.hasLapLimit = true := by simp [hasLapLimit, hone, hne]
  have hgridding := h.not_gridding
  have hpacing := h.not_pacing
  rw [lapCounter, if_pos hhas]
  cases hphase : s.phase with
  | gridding => exact absurd hphase hgridding
  | pacing => exact absurd hphase hpacing
  | racing | caution | checkered | cooldown => rfl

/-- The counter of a started race shows its stage. -/
theorem HasRun.runningCounter_eq (h : s.HasRun limit laps) (hlimit : 0 < limit)
    (hmax : limit < Text.maxSigned32) (w : Wording) (countdownFrom : Int) :
    s.runningCounter w countdownFrom = (LapStage.after limit countdownFrom laps).text w limit := by
  have hleft : laps < limit → s.lapsRemaining = (limit - laps : Nat) := by
    intro hlt
    rw [h.remaining]
    omega
  rw [runningCounter]
  rcases LapStage.laps_cases limit countdownFrom laps with hc | hc | ⟨hc, hcount⟩ | ⟨hc, hcount⟩
  · have hdone : s.lapsRemaining < 1 ∧ 0 < s.lapsComplete := by
      rw [h.remaining, h.complete]
      omega
    rw [LapStage.after_of_finished hc, if_pos hdone]
    rfl
  · have hleft := hleft (by omega)
    rw [LapStage.after_of_final hc, if_neg (by omega), if_pos (by omega)]
    rfl
  · have hleft := hleft (by omega)
    rw [LapStage.after_of_counted hc hcount, if_neg (by omega), if_neg (by omega),
      if_pos (by omega), hleft]
    rfl
  · have hleft := hleft (by omega)
    have hcomplete : max s.lapsComplete 0 + 1 = (laps + 1 : Nat) := by
      rw [h.complete]
      omega
    have hnumber : wrapped32 (max s.lapsComplete 0 + 1) = (laps + 1 : Nat) := by
      have hmin : Text.minSigned32 ≤ 0 := by decide
      rw [hcomplete]
      exact wrapped32_of_within (by omega) (by omega)
    rw [LapStage.after_of_early hc hcount, if_neg (by omega), if_neg (by omega),
      if_neg (by omega), hnumber, h.total]
    rfl

/-- Over a race with a lap limit and any number of laps behind its end, the counter shows the stages
of the race's story: the laps from the first one on, up to where the counting down starts, the laps
that are left, down to two, the final lap, and from then on that the race is finishing. It never
goes back, and the numbers that it shows are in their bounds. -/
theorem lapCounter_over_race {limit : Nat} (hlimit : 0 < limit)
    (hmax : limit < Text.maxSigned32) (countdownFrom : Int) (w : Wording) (more : Nat)
    {race : Nat → Session} (hrace : ∀ laps < limit + more, (race laps).HasRun limit laps)
    (time : Nat → String) :
    let counter := fun laps => (race laps).lapCounter w countdownFrom (time laps)
    let stage := LapStage.after limit countdownFrom
    (∀ laps < limit + more, counter laps = (stage laps).text w limit) ∧
      (∀ laps, match stage laps with
        | .lap number => 1 ≤ number ∧ number ≤ limit
        | .remaining left => 2 ≤ left ∧ left ≤ countdownFrom
        | .finalLap | .finishing => True) ∧
      (Monotone fun laps => (stage laps).place) ∧
      (List.range (limit + more)).map counter =
        (LapStage.story limit countdownFrom more).map (LapStage.text w limit) := by
  intro counter stage
  have hstage : ∀ laps < limit + more, counter laps = (stage laps).text w limit := by
    intro laps hlaps
    have h := hrace laps hlaps
    calc counter laps = (race laps).runningCounter w countdownFrom :=
          h.lapCounter_eq hlimit hmax w countdownFrom (time laps)
      _ = (stage laps).text w limit := h.runningCounter_eq hlimit hmax w countdownFrom
  refine ⟨hstage, LapStage.bounds_after limit countdownFrom,
    LapStage.place_monotone limit countdownFrom, ?_⟩
  rw [← LapStage.map_after_range hlimit countdownFrom more, List.map_map]
  refine List.map_congr_left fun laps hlaps => ?_
  exact hstage laps (List.mem_range.1 hlaps)

/-- A race of four laps in which the last three are counted down, and one lap after it. -/
theorem lapCounter_over_race_sample :
    let race := fun laps : Nat => ({
      lapsTotal := 4, lapsComplete := laps, lapsRemaining := 4 - laps,
      phase := if laps < 4 then .racing else .checkered } : Session)
    0 < 4 ∧ ((4 : Nat) : Int) < Text.maxSigned32 ∧
      (∀ laps < 4 + 2, (race laps).HasRun 4 laps) ∧
      (List.range (4 + 2)).map (fun laps => (race laps).lapCounter .plain 3 "") =
        ["lap 1 of 4", "3 laps remaining", "2 laps remaining", "finallap", "finishing",
          "finishing"] := by
  intro race
  have hmax : ((4 : Nat) : Int) < Text.maxSigned32 := by decide
  have hrace : ∀ laps < 4 + 2, (race laps).HasRun 4 laps := by
    intro laps _
    have hphase : (race laps).phase = if laps < 4 then .racing else .checkered := rfl
    refine ⟨rfl, rfl, rfl, ?_, ?_⟩
    all_goals
      rw [hphase]
      split <;> decide
  obtain ⟨-, -, -, hshown⟩ :=
    lapCounter_over_race (by decide : 0 < 4) hmax 3 .plain 2 hrace fun _ => ""
  refine ⟨by decide, hmax, hrace, hshown.trans ?_⟩
  decide +kernel

end Session

end RaceOverlay
