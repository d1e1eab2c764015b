/-!
# Rounding of a label

The number of decimal places that the numeric fields of a label show.
-/
namespace RaceOverlay

structure Rounding where
  places : Nat
  places_le : places ≤ 3 := by omega
  deriving DecidableEq

namespace Rounding

/-- The nearest allowed number of places. -/
def nearest (n : Int) : Rounding where
  places := min n.toNat 3
  places_le := Nat.min_le_right ..

/-- Labels that do not say otherwise show three places. -/
def full : Rounding := { places := 3 }

instance : Inhabited Rounding := ⟨full⟩

theorem nearest_places (r : Rounding) : nearest r.places = r := by
  obtain ⟨n, h⟩ := r
  simp only [nearest, Int.toNat_natCast, Rounding.mk.injEq]
  exact Nat.min_eq_left h

end Rounding

end RaceOverlay
