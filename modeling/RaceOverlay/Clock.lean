import RaceOverlay.Text.Numeral

/-!
# Clock text

A duration as `h:mm:ss`, `m:ss` or `s` with up to three decimal places. The whole value is rounded
once, so that a carry reaches the minutes and hours. What is not finite has no digits.
-/
namespace RaceOverlay

/-- A way to show a duration in seconds: its decimal places, and whether the minutes are shown even
where they are zero. -/
abbrev Timer := Float → Nat → Bool → String

namespace Clock

/-- A number of at least `width` digits. -/
def padded (width n : Nat) : List Char := List.leftpad width '0' (Text.decimal n)

/-- The duration in units of the last place, rounded half away from zero and cut off at the greatest
64-bit number. -/
def ticks (seconds : Float) (places : Nat) : Nat :=
  (seconds.abs * Float.ofNat (Nat.pow 10 places)).round.toUInt64.toNat

/-- The hours, minutes and seconds of whole seconds: leading parts that are zero are left out, and
every part after the first has two digits. -/
def parts (whole : Nat) (forceMinutes : Bool) : List Char :=
  let hours := whole / 3600
  let minutes := whole % 3600 / 60
  let seconds := whole % 60
  if 0 < hours then
    Text.decimal hours ++ ':' :: padded 2 minutes ++ ':' :: padded 2 seconds
  else if 0 < minutes || forceMinutes then
    Text.decimal minutes ++ ':' :: padded 2 seconds
  else Text.decimal seconds

/-- A duration of `ticks` units of the last place. -/
def ofTicks (negative : Bool) (ticks places : Nat) (forceMinutes : Bool) : List Char :=
  let sign := if negative && 0 < ticks then ['-'] else []
  let fraction := if 0 < places then '.' :: padded places (ticks % Nat.pow 10 places) else []
  sign ++ parts (ticks / Nat.pow 10 places) forceMinutes ++ fraction

/-- What a duration without digits shows. -/
def noTime : String := "-.--"

end Clock

/-- The usual timer: more than three places count as three. -/
def clockText : Timer := fun seconds places forceMinutes =>
  if seconds.isFinite then
    let places := min places 3
    String.ofList
      (Clock.ofTicks (decide (seconds < 0.0)) (Clock.ticks seconds places) places forceMinutes)
  else Clock.noTime

end RaceOverlay
