import RaceOverlay.Number.Binary64
import RaceOverlay.Text.Numeral

/-!
# Numbers with a set number of places

The exact value of a double is rounded once, a tie goes to the even neighbour, and the sign stays
even where every digit shown is zero.
-/
namespace RaceOverlay

/-- The natural number nearest to `num / den`, of two equally near ones the even one. -/
def nearestEven (num den : Nat) : Nat :=
  let down := num / den
  let rest := 2 * (num % den)
  if rest < den then down
  else if den < rest then down + 1
  else down + down % 2

/-- No other natural number is nearer, at positive denominators. -/
theorem nearestEven_within (num den : Nat) (hd : 0 < den) :
    2 * num ≤ (2 * nearestEven num den + 1) * den ∧
      2 * nearestEven num den * den ≤ 2 * num + den := by
  have hm := Nat.mod_lt num hd
  have he := Nat.div_add_mod num den
  have hc := Nat.mul_comm den (num / den)
  simp only [nearestEven]
  split
  · constructor <;> grind
  · split
    · constructor <;> grind
    · rcases Nat.mod_two_eq_zero_or_one (num / den) with hp | hp <;> rw [hp] <;>
        constructor <;> grind

namespace Fixed

/-- `mantissa · 2 ^ power` in units of the last place shown. -/
def units (mantissa : Nat) (power : Int) (places : Nat) : Nat :=
  if 0 ≤ power then mantissa * Nat.pow 2 power.toNat * Nat.pow 10 places
  else nearestEven (mantissa * Nat.pow 10 places) (Nat.pow 2 (-power).toNat)

/-- At least one digit before the point, exactly `places` after it, and no point without places. -/
def digits (units places : Nat) : List Char :=
  let all := List.leftpad (places + 1) '0' (Text.decimal units)
  let whole := all.take (all.length - places)
  if places = 0 then whole else whole ++ '.' :: all.drop (all.length - places)

def ofBinary64 (places : Nat) : Binary64 → List Char
  | .notANumber => ['N', 'a', 'N']
  | .infinite negative => (if negative then ['-'] else []) ++ ['i', 'n', 'f']
  | .finite negative mantissa power =>
    (if negative then ['-'] else []) ++ digits (units mantissa power places) places

end Fixed

/-- The text of `x` with exactly `places` decimal places. -/
def fixedText (x : Float) (places : Nat) : String :=
  String.ofList (Fixed.ofBinary64 places (.ofFloat x))

end RaceOverlay
