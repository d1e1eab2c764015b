import RaceOverlay.Json.Value

/-!
# JSON numbers

Reading a number, and the integer or the double that it stands for.

The double is not always the nearest one: the leading digits are taken as a 64-bit integer, which is
rounded to a double and then scaled by a power of ten in one operation. For up to 15 digits and
powers up to 22 both are exact, so that the result is the nearest double.
-/
namespace RaceOverlay.Json.Number

/-- Digits up to the first other character. -/
def spanDigits (cs : List Char) : List Char × List Char :=
  (cs.takeWhile Char.isDigit, cs.dropWhile Char.isDigit)

/-- An exponent at the end of a number, or nothing. -/
def exponent? : List Char → Option (Option (Bool × List Char))
  | [] => some none
  | c :: rest =>
    if c = 'e' ∨ c = 'E' then
      let (negative, digits) := match rest with
        | '-' :: digits => (true, digits)
        | '+' :: digits => (false, digits)
        | digits => (false, digits)
      if Text.isDigits digits then some (some (negative, digits)) else none
    else none

/-- Reads a whole word: a number has no leading zeros, no plus and no empty part. -/
def ofChars? (cs : List Char) : Option Number :=
  let (negative, body) := match cs with
    | '-' :: rest => (true, rest)
    | _ => (false, cs)
  let (whole, rest) := spanDigits body
  if whole.isEmpty || (whole.head? == some '0' && whole.length != 1) then none
  else match rest with
    | '.' :: rest =>
      let (fraction, rest) := spanDigits rest
      if fraction.isEmpty then none
      else (exponent? rest).map fun e => ⟨negative, whole, some fraction, e⟩
    | _ => (exponent? rest).map fun e => ⟨negative, whole, none, e⟩

/-- The integer that is written without fraction and exponent. Minus zero is none. -/
def int? (n : Number) : Option Int :=
  match n.fraction, n.exponent with
  | none, none =>
    let value := Nat.ofDigitChars 10 n.whole 0
    if n.negative then
      if value = 0 then none else some (-Int.ofNat value)
    else some (Int.ofNat value)
  | _, _ => none

/-- Appends digits to a number while the result fits 64 bits, and counts them. -/
def takeDigits (start : Nat) : List Char → Nat × Nat
  | [] => (start, 0)
  | c :: cs =>
    let next := 10 * start + (c.toNat - '0'.toNat)
    if next ≤ Text.maxUnsigned64 then
      ((takeDigits next cs).1, (takeDigits next cs).2 + 1)
    else (start, 0)

/-- A power of ten that is a finite double. -/
def tenTo (n : Nat) : Float := Float.ofScientific 1 false n

/-- Division by a power of ten, in steps that are finite doubles. -/
def divideByTenTo (x : Float) (n : Nat) : Float :=
  if n ≤ 308 then x / tenTo n
  else if x == 0.0 then x
  else divideByTenTo (x / tenTo 308) (n - 308)
termination_by n

/-- Multiplication by a power of ten, if the result is finite. -/
def multiplyByTenTo? (x : Float) (n : Nat) : Option Float :=
  if n ≤ 308 then
    let y := x * tenTo n
    if y.isInf then none else some y
  else if x == 0.0 then some x
  else none

/-- The double that a number stands for, if it is not too great for one. -/
def float? (n : Number) : Option Float :=
  let whole := takeDigits 0 n.whole
  let all := takeDigits whole.1 (n.fraction.getD [])
  let shift : Int := match n.exponent with
    | none => 0
    | some (true, digits) => -Int.ofNat (Nat.ofDigitChars 10 digits 0)
    | some (false, digits) => Int.ofNat (Nat.ofDigitChars 10 digits 0)
  let power : Int := Int.ofNat (n.whole.length - whole.2) - Int.ofNat all.2 + shift
  let leading := all.1.toUInt64.toFloat
  let size :=
    if 0 ≤ power then multiplyByTenTo? leading power.toNat
    else some (divideByTenTo leading (-power).toNat)
  size.map fun x => if n.negative then -x else x

end RaceOverlay.Json.Number
