import Mathlib.Algebra.BigOperators.Group.Multiset.Basic
import Mathlib.Algebra.Ring.Int.Defs
import RaceOverlay.Proofs.Numerals
import RaceOverlay.Proofs.SingleClass

/-!
# Gains in a class

Each session gives the places from one on to the cars of a class, whatever their positions are. So
where a class has the same cars in qualifying and in another session, the places that some of them
gain are the places that others lose. Gains are shown with a sign, from which they can be read
again. The gains of positions across all classes have no such law, as positions may tie.
-/
namespace RaceOverlay

section Signed

/-- Gains are shown with a plus, losses with a minus. -/
theorem toList_gainText (gain : Int) :
    (gainText gain).toList =
      if 0 < gain then '+' :: Text.decimal gain.toNat
      else if gain = 0 then Text.decimal 0
      else '-' :: Text.decimal (-gain).toNat := by
  rw [gainText]
  split
  · rename_i hgain
    rw [String.toList_append, Text.toList_toString, if_pos (by omega)]
    rfl
  · rename_i hloss
    rw [Text.toList_toString]
    split
    · rename_i hzero
      obtain rfl : gain = 0 := by omega
      rfl
    · rename_i hnegative
      rw [if_neg (by omega)]

theorem integer?_gainText {gain lo hi : Int} (hlo : lo ≤ gain) (hhi : gain ≤ hi) :
    Text.integer? lo hi (gainText gain).toList = some gain := by
  by_cases hgain : 0 < gain
  · have hnat : (gain.toNat : Int) = gain := by omega
    rw [toList_gainText, if_pos hgain, Text.integer?_plus _ (by omega), hnat]
  · rw [gainText, if_neg hgain]
    exact Text.integer?_toString hlo hhi

theorem head?_gainText (gain : Int) : (gainText gain).toList.head? = some '+' ↔ 0 < gain := by
  rw [toList_gainText]
  split
  · rename_i hgain
    simp [hgain]
  · rename_i hloss
    split
    · simp only [hloss, iff_false]
      exact Text.head?_decimal_ne (by decide) 0
    · simp [hloss]

theorem gainText_ne_empty (gain : Int) : gainText gain ≠ "" := by
  intro hempty
  have hread := integer?_gainText (Int.le_refl gain) (Int.le_refl gain)
  rw [hempty] at hread
  cases hread

end Signed

namespace Session

variable {s start : Session} {className : String}

/-- Sorted, the cars of a class have the places from one on. -/
theorem map_classPosition_classOrdered
    (hcars : ((s.carsOf className).map (·.driver.car)).Nodup) :
    (s.classOrdered className (·.position)).map (fun x => s.classPosition x.driver) =
      places (s.carsOf className).length := by
  have hlength := (s.classOrdered_perm className (·.position)).length_eq
  refine List.ext_getElem ?_ fun i hi hplace => ?_
  · rw [List.length_map, length_places, hlength]
  · rw [List.length_map] at hi
    have hget := getElem?_places (n := (s.carsOf className).length) (by rwa [hlength] at hi)
    rw [List.getElem?_eq_getElem hplace] at hget
    rw [List.getElem_map, Option.some.inj hget]
    exact classRank_getElem hcars hi

/-- The places of a class go to whoever has its cars, in whichever session. -/
theorem classPositions_perm (hcars : ((s.carsOf className).map (·.driver.car)).Nodup)
    {xs : List Standing} (hclass : ∀ x ∈ xs, x.driver.className = className)
    (hsame : (xs.map (·.driver.car)).Perm ((s.carsOf className).map (·.driver.car))) :
    (xs.map fun x => s.classPosition x.driver).Perm (places (s.carsOf className).length) := by
  -- In one class, the place depends on the car alone.
  let place (car : Int) : Int := s.classPosition { car, className }
  have hplace (ys : List Standing) (hys : ∀ x ∈ ys, x.driver.className = className) :
      (ys.map fun x => s.classPosition x.driver) = (ys.map (·.driver.car)).map place := by
    rw [List.map_map]
    refine List.map_congr_left fun x hx => ?_
    have hname : x.driver.className =
        ({ car := x.driver.car, className } : Driver).className := hys x hx
    exact s.classRank_congr hname rfl (·.position)
  have hsorted := (s.classOrdered_perm className (·.position)).map fun x =>
    s.classPosition x.driver
  rw [map_classPosition_classOrdered hcars] at hsorted
  rw [hplace xs hclass]
  refine (hsame.map place).trans ?_
  rw [← hplace _ fun x hx => className_of_mem hx]
  exact hsorted.symm

/-- Both sessions tell all their cars apart, and the class has the same ones in both. -/
structure SameClass (s start : Session) (className : String) : Prop where
  cars : (s.standings.map (·.driver.car)).Nodup
  startCars : (start.standings.map (·.driver.car)).Nodup
  same : ∀ car, car ∈ (s.carsOf className).map (·.driver.car) ↔
    car ∈ (start.carsOf className).map (·.driver.car)

private theorem nodup_carsOf (h : (s.standings.map (·.driver.car)).Nodup) (className : String) :
    ((s.carsOf className).map (·.driver.car)).Nodup :=
  h.sublist ((List.filter_sublist).map _)

/-- The places that a car has gained in its class since the start. -/
def classGain (s start : Session) (x : Standing) : Int :=
  start.classPosition x.driver - s.classPosition x.driver

namespace SameClass

variable (h : s.SameClass start className)
include h

theorem perm : ((s.carsOf className).map (·.driver.car)).Perm
    ((start.carsOf className).map (·.driver.car)) :=
  (List.perm_ext_iff_of_nodup (nodup_carsOf h.cars className)
    (nodup_carsOf h.startCars className)).2 h.same

theorem length_eq : (start.carsOf className).length = (s.carsOf className).length := by
  have hlength := h.perm.length_eq
  rw [List.length_map, List.length_map] at hlength
  exact hlength.symm

theorem startPositions_perm :
    ((s.carsOf className).map fun x => start.classPosition x.driver).Perm
      (places (s.carsOf className).length) := by
  rw [← h.length_eq]
  exact classPositions_perm (nodup_carsOf h.startCars className)
    (fun x hx => className_of_mem hx) h.perm

/-- What the cars of the class gain and lose adds up to nothing. -/
theorem sum_classGain : ((s.carsOf className).map (s.classGain start)).sum = 0 := by
  have hplaces : ((s.carsOf className).map fun x => s.classPosition x.driver).Perm
      (places (s.carsOf className).length) :=
    classPositions_perm (nodup_carsOf h.cars className) (fun x hx => className_of_mem hx) (.refl _)
  have hequal := (h.startPositions_perm.trans hplaces.symm).sum_eq
  have hsums := Multiset.sum_map_sub (m := (s.carsOf className : Multiset Standing))
    (f := fun x => start.classPosition x.driver) (g := fun x => s.classPosition x.driver)
  simp only [Multiset.map_coe, Multiset.sum_coe] at hsums
  exact hsums.trans (sub_eq_zero.2 hequal)

/-- Every car of the class has a standing of the class to be compared with. -/
theorem exists_startPositions {scene : Scene} (rounding : Rounding)
    (hstart : scene.weekend.sessionOfKind? .qualify = some start) {x : Standing}
    (hx : x ∈ s.carsOf className) :
    ∃ entry ∈ start.carsOf className, entry.driver.car = x.driver.car ∧
      StandingView.startPositions? ⟨scene, s, x, rounding⟩ =
        some (entry.position, start.classPosition x.driver) := by
  obtain ⟨entry, hentry, hcar⟩ := List.mem_map.1 ((h.same _).1 (List.mem_map_of_mem hx))
  have hfound : start.standing? x.driver.car = some entry :=
    (Order.find?_key_eq_some_iff h.startCars).2 ⟨(List.mem_filter.1 hentry).1, hcar⟩
  exact ⟨entry, hentry, hcar, StandingView.startPositions?_of_entry hstart hfound⟩

end SameClass

end Session

/-- What labels show of the places that the cars of a class have gained since the start: the places
at the start are the numbers from one on, each gain is a number with its sign, and the numbers add
up to zero. -/
structure GainsCancel (scene : Scene) (rounding : Rounding) (start s : Session)
    (className : String) : Prop where
  started : ∀ x ∈ s.carsOf className, ∃ entry ∈ start.carsOf className,
    entry.driver.car = x.driver.car ∧
      StandingView.text ⟨scene, s, x, rounding⟩ .startPosition = toString entry.position ∧
      StandingView.text ⟨scene, s, x, rounding⟩ .classStartPosition =
        toString (start.classPosition x.driver)
  places : ((s.carsOf className).map fun x => start.classPosition x.driver).Perm
    (Session.places (s.carsOf className).length)
  shown : ∀ x ∈ s.carsOf className,
    StandingView.text ⟨scene, s, x, rounding⟩ .classPositionGain ≠ ""
  read : ∀ x ∈ s.carsOf className, ∀ lo hi,
    lo ≤ s.classGain start x → s.classGain start x ≤ hi →
      Text.integer? lo hi
        (StandingView.text ⟨scene, s, x, rounding⟩ .classPositionGain).toList =
          some (s.classGain start x)
  plus : ∀ x ∈ s.carsOf className,
    (StandingView.text ⟨scene, s, x, rounding⟩ .classPositionGain).toList.head? = some '+' ↔
      0 < s.classGain start x
  sum : ((s.carsOf className).map (s.classGain start)).sum = 0

/-- A class that has the same cars in qualifying and in a session gains nothing as a whole, for any
positions and whichever way they tie. -/
theorem class_gains_cancel (scene : Scene) (rounding : Rounding) {start s : Session}
    {className : String} (hstart : scene.weekend.sessionOfKind? .qualify = some start)
    (h : s.SameClass start className) : GainsCancel scene rounding start s className := by
  have hgain (x : Standing) (hx : x ∈ s.carsOf className) :
      StandingView.text ⟨scene, s, x, rounding⟩ .classPositionGain =
        gainText (s.classGain start x) := by
    obtain ⟨entry, -, -, hpositions⟩ := h.exists_startPositions rounding hstart hx
    simp only [StandingView.text, StandingView.startText, hpositions]
    rfl
  constructor
  case started =>
    intro x hx
    obtain ⟨entry, hentry, hcar, hpositions⟩ := h.exists_startPositions rounding hstart hx
    refine ⟨entry, hentry, hcar, ?_, ?_⟩
    · simp only [StandingView.text, StandingView.startText, hpositions]
    · simp only [StandingView.text, StandingView.startText, hpositions]
  case places => exact h.startPositions_perm
  case shown =>
    intro x hx
    rw [hgain x hx]
    exact gainText_ne_empty _
  case read =>
    intro x hx lo hi hlo hhi
    rw [hgain x hx]
    exact integer?_gainText hlo hhi
  case plus =>
    intro x hx
    rw [hgain x hx]
    exact head?_gainText _
  case sum => exact h.sum_classGain

/-- Three cars, of which two tie at the start and one has no classification, and a car of another
class. -/
def mixedGrid : Session where
  id := 1
  kind := some .qualify
  standings := [
    { driver := { car := 1, className := "GT3" }, position := 4 },
    { driver := { car := 8, className := "LMP2" }, position := 1 },
    { driver := { car := 4, className := "GT3" }, position := 4 },
    { driver := { car := 7, className := "GT3" } }]

def mixedRace : Session where
  kind := some .race
  standings := [
    { driver := { car := 4, className := "GT3" }, position := 3 },
    { driver := { car := 7, className := "GT3" }, position := 2 },
    { driver := { car := 1, className := "GT3" }, position := 9 }]

theorem class_gains_cancel_sample :
    let scene : Scene :=
      ⟨{ sessions := [mixedRace, mixedGrid] }, {}, .empty, .standard, clockText⟩
    scene.weekend.sessionOfKind? .qualify = some mixedGrid ∧
      mixedRace.SameClass mixedGrid "GT3" ∧
      (mixedRace.carsOf "GT3").map (mixedRace.classGain mixedGrid) = [0, 2, -2] ∧
      GainsCancel scene .full mixedGrid mixedRace "GT3" := by
  have hsame : mixedRace.SameClass mixedGrid "GT3" := by
    refine ⟨by decide, by decide, fun car => ?_⟩
    have hrace : (mixedRace.carsOf "GT3").map (·.driver.car) = [4, 7, 1] := by decide
    have hgrid : (mixedGrid.carsOf "GT3").map (·.driver.car) = [1, 4, 7] := by decide
    rw [hrace, hgrid]
    simp only [List.mem_cons, List.not_mem_nil, or_false]
    omega
  exact ⟨rfl, hsame, by decide, class_gains_cancel _ .full rfl hsame⟩

end RaceOverlay
