/-!
# Decimal numerals

Integers as they are written in ASCII digits. A reader takes the whole text or nothing: no blanks,
no separators. Leading zeros are allowed.
-/
namespace RaceOverlay.Text

/-- The greatest number of 64 unsigned bits. -/
def maxUnsigned64 : Nat := 18446744073709551615

/-- The least and the greatest number of 32 signed bits. -/
def minSigned32 : Int := -2147483648

def maxSigned32 : Int := 2147483647

/-- The decimal digits of a number, without leading zeros. -/
def decimal (n : Nat) : List Char := Nat.toDigits 10 n

/-- A non-empty text of ASCII digits. -/
def isDigits (cs : List Char) : Bool := !cs.isEmpty && cs.all Char.isDigit

/-- The number that digits write. -/
def digits? (cs : List Char) : Option Nat :=
  if isDigits cs then some (Nat.ofDigitChars 10 cs 0) else none

theorem isDigits_decimal (n : Nat) : isDigits (decimal n) = true := by
  have hne : Nat.toDigits 10 n ≠ [] := Nat.toDigits_ne_nil
  simp only [isDigits, decimal, Bool.and_eq_true, Bool.not_eq_true', List.isEmpty_eq_false_iff,
    List.all_eq_true]
  exact ⟨hne, fun c hc => Nat.isDigit_of_mem_toDigits (by decide) (by decide) hc⟩

theorem digits?_decimal (n : Nat) : digits? (decimal n) = some n := by
  rw [digits?, if_pos (isDigits_decimal n), decimal, Nat.ofDigitChars_ten_toDigits]

/-- Digits after an optional plus, at most `bound`. -/
def natural? (bound : Nat) (cs : List Char) : Option Nat :=
  let body := match cs with
    | '+' :: rest => rest
    | _ => cs
  (digits? body).filter (· ≤ bound)

/-- Digits after an optional sign, between `lo` and `hi`. -/
def integer? (lo hi : Int) (cs : List Char) : Option Int :=
  let value : Option Int := match cs with
    | '+' :: rest => (digits? rest).map Int.ofNat
    | '-' :: rest => (digits? rest).map fun n => -Int.ofNat n
    | _ => (digits? cs).map Int.ofNat
  value.filter fun n => lo ≤ n ∧ n ≤ hi

/-- A 64-bit unsigned numeral. -/
def unsigned64? (cs : List Char) : Option Nat := natural? maxUnsigned64 cs

/-- A 32-bit signed numeral. -/
def signed32? (cs : List Char) : Option Int := integer? minSigned32 maxSigned32 cs

end RaceOverlay.Text
