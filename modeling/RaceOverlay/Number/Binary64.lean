/-!
# Doubles as exact numbers

A finite double is a sign, a natural number below 2^53 and a power of two. The sign is kept for
zeros. Nothing here rounds.
-/
namespace RaceOverlay

/-- What the 64 bits of a double stand for: a finite one is `± mantissa · 2 ^ power`. -/
inductive Binary64 where
  | notANumber
  | infinite (negative : Bool)
  | finite (negative : Bool) (mantissa : Nat) (power : Int)
  deriving DecidableEq

namespace Binary64

/-- The exponent field 2047 marks infinities and NaNs; the field 0 has no hidden bit and shares the
power of the field 1. -/
def ofBits (bits : Nat) : Binary64 :=
  let negative := bits / Nat.pow 2 63 % 2 == 1
  let field := bits / Nat.pow 2 52 % Nat.pow 2 11
  let fraction := bits % Nat.pow 2 52
  if field = 2047 then
    if fraction = 0 then .infinite negative else .notANumber
  else if field = 0 then .finite negative fraction (-1074)
  else .finite negative (Nat.pow 2 52 + fraction) (Int.ofNat field - 1075)

def ofFloat (x : Float) : Binary64 := ofBits x.toBits.toNat

end Binary64

end RaceOverlay
