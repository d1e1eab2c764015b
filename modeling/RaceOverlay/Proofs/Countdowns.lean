import RaceOverlay.Fields.Session
import RaceOverlay.Proofs.ClockReading
import RaceOverlay.Proofs.FloatOrder

/-!
# Countdowns of sessions without a lap limit

Such a session shows the time that remains in two fields, and only one of them knows a longest
countdown. Up to it the two agree, and so they do where there is no finite time; a finite time above
it is hidden in the field of the remaining time and counted down by the lap counter.
-/
namespace RaceOverlay

/-- A clock text has a digit, so it is never taken for a duration without digits. -/
theorem clockText_ne_noTime {seconds : Float} (places : Nat) (forceMinutes : Bool)
    (hfinite : seconds.isFinite = true) :
    clockText seconds places forceMinutes ≠ Clock.noTime := by
  intro htext
  have hshows := Clock.shows_ofTicks (decide (seconds < 0.0)) (Clock.ticks seconds (min places 3))
    (min places 3) forceMinutes
  rw [← clockFace_of_isFinite places forceMinutes hfinite, clockFace, htext] at hshows
  obtain ⟨n, hn⟩ := hshows.first
  have hempty : [] = Text.decimal n := Option.some.inj hn
  exact Text.decimal_ne_nil n hempty.symm

theorem clockText_of_not_isFinite {seconds : Float} (places : Nat) (forceMinutes : Bool)
    (h : seconds.isFinite = false) : clockText seconds places forceMinutes = Clock.noTime := by
  rw [clockText, h]
  rfl

namespace Session

variable {s : Session}

theorem hasLapLimit_eq_false
    (h : s.lapsTotal < 1 ∨ s.lapsTotal = Text.maxSigned32) : s.hasLapLimit = false := by
  rcases h with hless | hmax
  · have hnot : ¬ 1 ≤ s.lapsTotal := by omega
    simp [hasLapLimit, hnot]
  · simp [hasLapLimit, hmax]

theorem lapCounter_of_no_limit
    (hlimit : s.lapsTotal < 1 ∨ s.lapsTotal = Text.maxSigned32) (hphase : s.phase ≠ .checkered)
    (w : Wording) (countdownFrom : Int) (timeRemaining : String) :
    s.lapCounter w countdownFrom timeRemaining = timeRemaining := by
  rw [lapCounter, hasLapLimit_eq_false hlimit, if_neg Bool.false_ne_true, if_neg hphase]

end Session

namespace SessionView

/-- What stands for no limit is longer than any countdown. -/
theorem longestCountdown_lt_of_unlimited {seconds : Float} (h : unlimitedFrom ≤ seconds) :
    longestCountdown < seconds :=
  float_lt_of_lt_of_le (by decide +kernel) h

variable {v : SessionView}

theorem timeRemaining_of_long (h : longestCountdown < v.session.timeRemaining) :
    v.timeRemaining = Clock.noTime := by
  simp [timeRemaining, h]

theorem timeRemaining_of_not_isFinite (h : v.session.timeRemaining.isFinite = false) :
    v.timeRemaining = Clock.noTime := by
  simp [timeRemaining, isUnlimited, h]

theorem timeRemaining_of_short (hfinite : v.session.timeRemaining.isFinite = true)
    (h : ¬ longestCountdown < v.session.timeRemaining) :
    v.timeRemaining = v.time v.session.timeRemaining := by
  have hlimited : ¬ unlimitedFrom ≤ v.session.timeRemaining :=
    fun hle => h (longestCountdown_lt_of_unlimited hle)
  simp [timeRemaining, isUnlimited, hfinite, h, hlimited]

section Unlimited

variable (hrunning : v.scene.weekend.current? = some v.session)
  (hlimit : v.session.lapsTotal < 1 ∨ v.session.lapsTotal = Text.maxSigned32)
  (hphase : v.session.phase ≠ .checkered)
include hrunning hlimit hphase

/-- The counter shows the remaining time, however long it is. -/
theorem lapCounter_of_running : v.lapCounter = v.time v.session.timeRemaining := by
  rw [lapCounter, hrunning]
  exact Session.lapCounter_of_no_limit hlimit hphase _ _ _

/-- In the running session, without a lap limit and before the flag, the lap counter is the field of
the remaining time but for finite times above the longest countdown: those the counter shows, and
the other field does not. -/
theorem countdowns_agree_iff (hclock : v.scene.timer = clockText) :
    (v.text .lapCounter = v.text .timeRemaining ↔
      ¬ (v.session.timeRemaining.isFinite = true ∧
        longestCountdown < v.session.timeRemaining)) ∧
      v.text .lapCounter = clockText v.session.timeRemaining v.rounding.places true ∧
      (longestCountdown < v.session.timeRemaining → v.text .timeRemaining = Clock.noTime) := by
  have hcounter : v.text .lapCounter =
      clockText v.session.timeRemaining v.rounding.places true := by
    show v.lapCounter = _
    rw [lapCounter_of_running hrunning hlimit hphase, time, hclock]
  refine ⟨?_, hcounter, timeRemaining_of_long⟩
  rw [hcounter]
  show _ = v.timeRemaining ↔ _
  cases hfinite : v.session.timeRemaining.isFinite with
  | false =>
    rw [clockText_of_not_isFinite _ _ hfinite, timeRemaining_of_not_isFinite hfinite]
    simp
  | true =>
    by_cases hlong : longestCountdown < v.session.timeRemaining
    · have hne := clockText_ne_noTime v.rounding.places true hfinite
      rw [timeRemaining_of_long hlong]
      simp [hne, hlong]
    · rw [timeRemaining_of_short hfinite hlong, time, hclock]
      simp [hlong]

end Unlimited

/-- The only session of a weekend, with no lap limit and some time remaining. -/
def countingDown (seconds : Float) : SessionView where
  scene := ⟨{ sessions := [{ timeRemaining := seconds }] }, {}, .empty, .standard, clockText⟩
  session := { timeRemaining := seconds }
  rounding := .full

theorem countdowns_agree_iff_sample :
    let v := countingDown 540.0
    v.scene.weekend.current? = some v.session ∧
      (v.session.lapsTotal < 1 ∨ v.session.lapsTotal = Text.maxSigned32) ∧
      v.session.phase ≠ .checkered ∧ v.scene.timer = clockText ∧
      (v.text .lapCounter = v.text .timeRemaining ↔
        ¬ (v.session.timeRemaining.isFinite = true ∧
          longestCountdown < v.session.timeRemaining)) ∧
      v.text .lapCounter = clockText v.session.timeRemaining v.rounding.places true ∧
      (longestCountdown < v.session.timeRemaining → v.text .timeRemaining = Clock.noTime) := by
  have hlimit : (countingDown 540.0).session.lapsTotal < 1 ∨
      (countingDown 540.0).session.lapsTotal = Text.maxSigned32 := .inl (by decide)
  have hphase : (countingDown 540.0).session.phase ≠ .checkered := by decide
  exact ⟨rfl, hlimit, hphase, rfl,
    countdowns_agree_iff (v := countingDown 540.0) rfl hlimit hphase rfl⟩

/-- A week of remaining time is no countdown, and the counter shows it. -/
theorem week_counted_down :
    let v := countingDown 604800.0
    v.scene.weekend.current? = some v.session ∧ v.session.lapsTotal = 0 ∧
      v.session.phase = .racing ∧ v.scene.timer = clockText ∧
      v.text .timeRemaining = "-.--" ∧ v.text .lapCounter = clockText 604800.0 3 true ∧
      v.text .lapCounter ≠ v.text .timeRemaining := by
  have hcounter : (countingDown 604800.0).text .lapCounter = clockText 604800.0 3 true := rfl
  have hlong : longestCountdown < (countingDown 604800.0).session.timeRemaining := by decide
  have hremaining : (countingDown 604800.0).timeRemaining = Clock.noTime :=
    timeRemaining_of_long hlong
  refine ⟨rfl, rfl, rfl, rfl, hremaining, hcounter, ?_⟩
  show _ ≠ (countingDown 604800.0).timeRemaining
  rw [hcounter, hremaining]
  exact clockText_ne_noTime 3 true (by decide)

end SessionView

end RaceOverlay
