import RaceOverlay.Text.Numeral

/-!
# Numbers of fixed width

Numbers are kept in 32 bits with a sign, or in 64 bits without one. A sum or a difference beyond the
greatest of them goes on from the other end.
-/
namespace RaceOverlay

/-- The number of 32 bits with a sign that has the low bits of the given one. -/
def wrapped32 (n : Int) : Int := Int.bmod n (Nat.pow 2 32)

/-- The number of 64 bits without a sign that has the low bits of the given one. -/
def wrapped64 (n : Nat) : Nat := n % Nat.pow 2 64

theorem wrapped32_of_within {n : Int} (hlo : Text.minSigned32 ≤ n) (hhi : n ≤ Text.maxSigned32) :
    wrapped32 n = n := by
  have hlo : -2147483648 ≤ n := hlo
  have hhi : n ≤ 2147483647 := hhi
  show Int.bmod n 4294967296 = n
  exact Int.bmod_eq_of_le_mul_two (by omega) (by omega)

theorem wrapped64_le (n : Nat) : wrapped64 n ≤ Text.maxUnsigned64 :=
  Nat.le_of_lt_succ (Nat.mod_lt n (by decide : 0 < Nat.pow 2 64))

end RaceOverlay
