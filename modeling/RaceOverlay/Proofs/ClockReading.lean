import RaceOverlay.Clock
import RaceOverlay.Proofs.Numerals

/-!
# Reading a clock text

A clock text has a sign, the hours, minutes and seconds that it shows, and the digits of a fraction.
It can be taken apart again, and its parts give the number of units that was written. So nothing is
lost but what the rounding to that number loses; of the rounding itself nothing is claimed here.
-/
namespace RaceOverlay

namespace Clock

/-- A clock text in parts. -/
structure Face where
  negative : Bool
  /-- Hours, minutes and seconds, as far as they are shown. -/
  components : List (List Char)
  /-- The digits after the point. -/
  fraction : List Char

namespace Face

def toChars (f : Face) : List Char :=
  let sign := if f.negative then ['-'] else []
  let places := if f.fraction.isEmpty then [] else '.' :: f.fraction
  sign ++ [':'].intercalate f.components ++ places

/-- Takes a minus off the front, cuts at the first point, and cuts what is ahead of it at every
colon. -/
def ofChars (cs : List Char) : Face :=
  let body := if cs.head? = some '-' then cs.tail else cs
  { negative := cs.head? == some '-'
    components := (body.takeWhile (· != '.')).splitOn ':'
    fraction := (body.dropWhile (· != '.')).tail }

/-- The whole seconds of one to three components. -/
def seconds? : List (List Char) → Option Nat
  | [seconds] => Text.digits? seconds
  | [minutes, seconds] => do
    return 60 * (← Text.digits? minutes) + (← Text.digits? seconds)
  | [hours, minutes, seconds] => do
    return 3600 * (← Text.digits? hours) + 60 * (← Text.digits? minutes) +
      (← Text.digits? seconds)
  | _ => none

/-- The units of a fraction; no places are no units. -/
def units? (fraction : List Char) : Option Nat :=
  if fraction.isEmpty then some 0 else Text.digits? fraction

/-- The number of units of the last place that is shown. -/
def ticks? (f : Face) : Option Nat := do
  let seconds ← seconds? f.components
  let units ← units? f.fraction
  return seconds * Nat.pow 10 f.fraction.length + units

/-- The components are numerals, and there is one. -/
structure Numeric (f : Face) : Prop where
  ne_nil : f.components ≠ []
  digits : ∀ c ∈ f.components, Text.isDigits c = true

/-- What a face says of a number of units with some decimal places. -/
structure Shows (f : Face) (ticks places : Nat) (forceMinutes : Bool) : Prop where
  /-- The first component has no leading zeros. -/
  first : ∃ n, f.components.head? = some (Text.decimal n)
  later : ∀ c ∈ f.components.tail, c.length = 2 ∧ ∃ n < 60, Text.digits? c = some n
  atMostThree : f.components.length ≤ 3
  hours : f.components.length = 3 ↔ 3600 * Nat.pow 10 places ≤ ticks
  minutes : 2 ≤ f.components.length ↔
    60 * Nat.pow 10 places ≤ ticks ∨ forceMinutes = true
  fraction : f.fraction.length = places ∧ ∀ c ∈ f.fraction, c.isDigit = true
  ticks : f.ticks? = some ticks

end Face

section Padding

private theorem padded_eq (width n : Nat) :
    padded width n =
      List.replicate (width - (Text.decimal n).length) '0' ++ Text.decimal n := rfl

private theorem isDigit_of_mem_padded {width n : Nat} {c : Char} (h : c ∈ padded width n) :
    c.isDigit = true := by
  rw [padded_eq, List.mem_append] at h
  rcases h with hzero | hdecimal
  · rw [List.eq_of_mem_replicate hzero]
    rfl
  · exact Text.isDigit_of_mem_decimal hdecimal

private theorem isDigits_padded (width n : Nat) : Text.isDigits (padded width n) = true := by
  refine Text.isDigits_iff.2 ⟨?_, fun c hc => isDigit_of_mem_padded hc⟩
  rw [padded_eq]
  simp [Text.decimal_ne_nil]

/-- Leading zeros do not change what a numeral says. -/
private theorem digits?_padded (width n : Nat) : Text.digits? (padded width n) = some n := by
  rw [Text.digits?, if_pos (isDigits_padded width n), padded_eq, Nat.ofDigitChars_append,
    Nat.ofDigitChars_replicate_zero, Nat.mul_zero, Text.decimal, Nat.ofDigitChars_ten_toDigits]

/-- A number that fits has exactly the width. -/
private theorem length_padded {width n : Nat} (hwidth : 0 < width) (h : n < Nat.pow 10 width) :
    (padded width n).length = width := by
  have hle : (Text.decimal n).length ≤ width :=
    (Nat.length_toDigits_le_iff (by decide) hwidth).2 h
  rw [padded_eq, List.length_append, List.length_replicate]
  omega

end Padding

section Parts

private theorem colon_not_mem {cs : List Char} (h : Text.isDigits cs = true) : ':' ∉ cs := by
  intro hmem
  have hdigit := (Text.isDigits_iff.1 h).2 ':' hmem
  cases hdigit

/-- Joined components start with a digit, and hold nothing but digits and colons. -/
private theorem intercalate_spec {components : List (List Char)} (hne : components ≠ [])
    (h : ∀ c ∈ components, Text.isDigits c = true) :
    (∃ d rest, [':'].intercalate components = d :: rest ∧ d.isDigit = true) ∧
      ∀ c ∈ [':'].intercalate components, c.isDigit = true ∨ c = ':' := by
  induction components with
  | nil => exact absurd rfl hne
  | cons first rest ih =>
    have hfirst := Text.isDigits_iff.1 (h first List.mem_cons_self)
    obtain ⟨d, ds, rfl⟩ := List.exists_cons_of_ne_nil hfirst.1
    have hd := hfirst.2 d List.mem_cons_self
    cases rest with
    | nil =>
      rw [List.intercalate_singleton]
      exact ⟨⟨d, ds, rfl, hd⟩, fun c hc => .inl (hfirst.2 c hc)⟩
    | cons next later =>
      obtain ⟨-, htail⟩ :=
        ih (List.cons_ne_nil _ _) fun c hc => h c (List.mem_cons_of_mem _ hc)
      rw [List.intercalate_cons_of_ne_nil (List.cons_ne_nil _ _)]
      refine ⟨⟨d, _, rfl, hd⟩, fun c hc => ?_⟩
      simp only [List.mem_append, List.mem_singleton] at hc
      rcases hc with (hc | hc) | hc
      · exact .inl (hfirst.2 c hc)
      · exact .inr hc
      · exact htail c hc

/-- What is ahead of the point and what follows it are found by cutting there, also where there is
no point. -/
private theorem cut_at_point {body : List Char} (hbody : ∀ c ∈ body, (c != '.') = true)
    (fraction : List Char) :
    (body ++ if fraction.isEmpty then [] else '.' :: fraction).takeWhile (· != '.') = body ∧
      ((body ++ if fraction.isEmpty then [] else '.' :: fraction).dropWhile (· != '.')).tail =
        fraction := by
  rw [List.takeWhile_append_of_pos hbody, List.dropWhile_append_of_pos hbody]
  cases fraction with
  | nil => exact ⟨List.append_nil body, rfl⟩
  | cons c cs => exact ⟨List.append_nil body, rfl⟩

/-- Parts that are numerals are found again in their text. -/
theorem Face.ofChars_toChars {f : Face} (h : f.Numeric) : ofChars f.toChars = f := by
  obtain ⟨negative, components, fraction⟩ := f
  obtain ⟨⟨d, rest, hjoined, hd⟩, hchars⟩ := intercalate_spec h.ne_nil h.digits
  have hcolons : (d :: rest).splitOn ':' = components := by
    rw [← hjoined]
    exact List.splitOn_intercalate ':' (fun c hc => colon_not_mem (h.digits c hc)) h.ne_nil
  have hpoint : ∀ c ∈ d :: rest, (c != '.') = true := by
    intro c hc
    rw [← hjoined] at hc
    rcases hchars c hc with hdigit | rfl
    · rw [bne_iff_ne]
      rintro rfl
      cases hdigit
    · rfl
  obtain ⟨htake, hdrop⟩ := cut_at_point hpoint fraction
  cases negative with
  | true =>
    show Face.mk true
      ((([':'].intercalate components ++ _).takeWhile (· != '.')).splitOn ':')
      (([':'].intercalate components ++ _).dropWhile (· != '.')).tail = _
    rw [hjoined, htake, hdrop, hcolons]
  | false =>
    -- Without a sign the text starts with a digit, and a minus is none.
    have hhead : (d :: (rest ++ if fraction.isEmpty then [] else '.' :: fraction)).head? ≠
        some '-' := by
      intro hminus
      obtain rfl := Option.some.inj hminus
      cases hd
    show ofChars ([':'].intercalate components ++ _) = _
    rw [hjoined, ofChars, List.cons_append, if_neg hhead, beq_eq_false_iff_ne.2 hhead,
      ← List.cons_append, htake, hdrop, hcolons]

end Parts

section Written

/-- The components that are written for whole seconds. -/
def shownParts (whole : Nat) (forceMinutes : Bool) : List (List Char) :=
  let hours := whole / 3600
  let minutes := whole % 3600 / 60
  let seconds := whole % 60
  if 0 < hours then [Text.decimal hours, padded 2 minutes, padded 2 seconds]
  else if 0 < minutes || forceMinutes then [Text.decimal minutes, padded 2 seconds]
  else [Text.decimal seconds]

theorem parts_eq (whole : Nat) (forceMinutes : Bool) :
    parts whole forceMinutes = [':'].intercalate (shownParts whole forceMinutes) := by
  simp only [parts, shownParts]
  split
  · simp [List.intercalate]
  · split <;> simp [List.intercalate]

/-- The digits of the fraction that are written. -/
def shownFraction (ticks places : Nat) : List Char :=
  if 0 < places then padded places (ticks % Nat.pow 10 places) else []

/-- The face that is written for a number of units. -/
def Face.ofTicks (negative : Bool) (ticks places : Nat) (forceMinutes : Bool) : Face where
  negative := negative && decide (0 < ticks)
  components := shownParts (ticks / Nat.pow 10 places) forceMinutes
  fraction := shownFraction ticks places

theorem toChars_ofTicks (negative : Bool) (ticks places : Nat) (forceMinutes : Bool) :
    (Face.ofTicks negative ticks places forceMinutes).toChars =
      ofTicks negative ticks places forceMinutes := by
  have hpoint : (if (shownFraction ticks places).isEmpty then []
      else '.' :: shownFraction ticks places) =
      if 0 < places then '.' :: padded places (ticks % Nat.pow 10 places) else [] := by
    unfold shownFraction
    by_cases h : 0 < places
    · have hne := (Text.isDigits_iff.1 (isDigits_padded places (ticks % Nat.pow 10 places))).1
      rw [if_pos h, if_pos h, if_neg (by rwa [List.isEmpty_iff])]
    · rw [if_neg h, if_neg h]
      rfl
  rw [Face.toChars, ofTicks, parts_eq, ← hpoint]
  rfl

/-- Hours are shown from the first one on, and minutes from the first one on or where they are
asked for. -/
theorem shownParts_cases (whole : Nat) (forceMinutes : Bool) :
    3600 ≤ whole ∧ shownParts whole forceMinutes =
        [Text.decimal (whole / 3600), padded 2 (whole % 3600 / 60), padded 2 (whole % 60)] ∨
      whole < 3600 ∧ (60 ≤ whole ∨ forceMinutes = true) ∧ shownParts whole forceMinutes =
        [Text.decimal (whole / 60), padded 2 (whole % 60)] ∨
      whole < 60 ∧ forceMinutes = false ∧ shownParts whole forceMinutes =
        [Text.decimal whole] := by
  simp only [shownParts]
  split
  · rename_i hhours
    exact .inl ⟨by omega, rfl⟩
  · rename_i hhours
    have hwhole : whole % 3600 = whole := by omega
    rw [hwhole]
    split
    · rename_i hminutes
      have hshown : 0 < whole / 60 ∨ forceMinutes = true := by simpa using hminutes
      exact .inr (.inl ⟨by omega, hshown.imp_left (by omega), rfl⟩)
    · rename_i hminutes
      have hshown : whole / 60 = 0 ∧ forceMinutes = false := by simpa using hminutes
      have hseconds : whole % 60 = whole := by omega
      rw [hseconds]
      exact .inr (.inr ⟨by omega, hshown.2, rfl⟩)

theorem numeric_ofTicks (negative : Bool) (ticks places : Nat) (forceMinutes : Bool) :
    (Face.ofTicks negative ticks places forceMinutes).Numeric := by
  have hparts (whole : Nat) : shownParts whole forceMinutes ≠ [] ∧
      ∀ c ∈ shownParts whole forceMinutes, Text.isDigits c = true := by
    rcases shownParts_cases whole forceMinutes with ⟨-, h⟩ | ⟨-, -, h⟩ | ⟨-, -, h⟩ <;>
      simp [h, Text.isDigits_decimal, isDigits_padded]
  exact ⟨(hparts _).1, (hparts _).2⟩

theorem seconds?_shownParts (whole : Nat) (forceMinutes : Bool) :
    Face.seconds? (shownParts whole forceMinutes) = some whole := by
  rcases shownParts_cases whole forceMinutes with ⟨-, h⟩ | ⟨-, -, h⟩ | ⟨-, -, h⟩
  · rw [h]
    simp only [Face.seconds?, digits?_padded, Text.digits?_decimal, Option.bind_eq_bind,
      Option.bind_some, Option.pure_def, Option.some.injEq]
    omega
  · rw [h]
    simp only [Face.seconds?, digits?_padded, Text.digits?_decimal, Option.bind_eq_bind,
      Option.bind_some, Option.pure_def, Option.some.injEq]
    omega
  · rw [h]
    exact Text.digits?_decimal whole

theorem length_shownFraction (ticks places : Nat) :
    (shownFraction ticks places).length = places := by
  unfold shownFraction
  split
  · rename_i h
    exact length_padded h (Nat.mod_lt _ (Nat.pow_pos (by decide)))
  · rename_i h
    simp only [List.length_nil]
    omega

theorem units?_shownFraction (ticks places : Nat) :
    Face.units? (shownFraction ticks places) = some (ticks % Nat.pow 10 places) := by
  unfold shownFraction Face.units?
  by_cases h : 0 < places
  · have hne := (Text.isDigits_iff.1 (isDigits_padded places (ticks % Nat.pow 10 places))).1
    rw [if_pos h, if_neg (by rwa [List.isEmpty_iff]), digits?_padded]
  · obtain rfl : places = 0 := by omega
    have hnone : ticks % Nat.pow 10 0 = 0 := Nat.mod_one ticks
    rw [hnone]
    rfl

theorem ticks?_ofTicks (negative : Bool) (ticks places : Nat) (forceMinutes : Bool) :
    (Face.ofTicks negative ticks places forceMinutes).ticks? = some ticks := by
  simp only [Face.ticks?, Face.ofTicks, seconds?_shownParts, units?_shownFraction,
    length_shownFraction, Option.bind_eq_bind, Option.bind_some, Option.pure_def]
  exact congrArg some (Nat.div_add_mod' ticks (Nat.pow 10 places))

private theorem head?_shownParts (whole : Nat) (forceMinutes : Bool) :
    ∃ n, (shownParts whole forceMinutes).head? = some (Text.decimal n) := by
  rcases shownParts_cases whole forceMinutes with ⟨-, h⟩ | ⟨-, -, h⟩ | ⟨-, -, h⟩
  all_goals
    rw [h]
    exact ⟨_, rfl⟩

private theorem later_shownParts {whole : Nat} {c : List Char}
    (hc : c ∈ (shownParts whole forceMinutes).tail) :
    c.length = 2 ∧ ∃ n < 60, Text.digits? c = some n := by
  have hpadded {n : Nat} (h : n < 60) : (padded 2 n).length = 2 ∧
      ∃ k < 60, Text.digits? (padded 2 n) = some k :=
    ⟨length_padded (by decide) (show n < 100 by omega), n, h, digits?_padded 2 n⟩
  rcases shownParts_cases whole forceMinutes with ⟨-, h⟩ | ⟨-, -, h⟩ | ⟨-, -, h⟩
  · rw [h] at hc
    rcases List.mem_cons.1 hc with rfl | hc
    · exact hpadded (by omega)
    · obtain rfl := List.mem_singleton.1 hc
      exact hpadded (by omega)
  · rw [h] at hc
    obtain rfl := List.mem_singleton.1 hc
    exact hpadded (by omega)
  · rw [h] at hc
    cases hc

theorem length_shownParts_le (whole : Nat) (forceMinutes : Bool) :
    (shownParts whole forceMinutes).length ≤ 3 := by
  rcases shownParts_cases whole forceMinutes with ⟨-, h⟩ | ⟨-, -, h⟩ | ⟨-, -, h⟩ <;> simp [h]

theorem length_shownParts_eq_three_iff (whole : Nat) (forceMinutes : Bool) :
    (shownParts whole forceMinutes).length = 3 ↔ 3600 ≤ whole := by
  rcases shownParts_cases whole forceMinutes with ⟨hw, h⟩ | ⟨hw, -, h⟩ | ⟨hw, -, h⟩
  · simp [h, hw]
  · simp [h, hw]
  · simp [h]
    omega

theorem two_le_length_shownParts_iff (whole : Nat) (forceMinutes : Bool) :
    2 ≤ (shownParts whole forceMinutes).length ↔ 60 ≤ whole ∨ forceMinutes = true := by
  rcases shownParts_cases whole forceMinutes with ⟨hw, h⟩ | ⟨-, hshown, h⟩ | ⟨hw, hforce, h⟩
  · simp [h]
    omega
  · simp [h, hshown]
  · subst hforce
    simp [h, hw]

theorem shows_ofTicks (negative : Bool) (ticks places : Nat) (forceMinutes : Bool) :
    (Face.ofTicks negative ticks places forceMinutes).Shows ticks places forceMinutes := by
  have hfrom (n : Nat) : n * Nat.pow 10 places ≤ ticks ↔ n ≤ ticks / Nat.pow 10 places :=
    (Nat.le_div_iff_mul_le (Nat.pow_pos (by decide))).symm
  constructor
  case first => exact head?_shownParts _ forceMinutes
  case later => exact fun c hc => later_shownParts hc
  case atMostThree => exact length_shownParts_le _ forceMinutes
  case hours =>
    rw [hfrom]
    exact length_shownParts_eq_three_iff _ forceMinutes
  case minutes =>
    rw [hfrom]
    exact two_le_length_shownParts_iff _ forceMinutes
  case fraction =>
    refine ⟨length_shownFraction ticks places, fun c hc => ?_⟩
    simp only [Face.ofTicks, shownFraction] at hc
    split at hc
    · exact isDigit_of_mem_padded hc
    · cases hc
  case ticks => exact ticks?_ofTicks negative ticks places forceMinutes

example : ofTicks true 3725250 3 false = "-1:02:05.250".toList ∧
    (Face.ofChars "-1:02:05.250".toList).ticks? = some 3725250 := by decide

end Written

end Clock

/-- The face that is read off the text of a duration. -/
def clockFace (seconds : Float) (places : Nat) (forceMinutes : Bool) : Clock.Face :=
  .ofChars (clockText seconds places forceMinutes).toList

/-- A clock text shows the number of units that `rounded` gives for its duration, and with that
number and the sign everything else of the text is given. -/
structure Clock.ReadsBack (rounded : Float → Nat) (seconds : Float) (places : Nat)
    (forceMinutes : Bool) : Prop where
  chars : (clockText seconds places forceMinutes).toList =
    (clockFace seconds places forceMinutes).toChars
  shows : (clockFace seconds places forceMinutes).Shows (rounded seconds) (min places 3)
    forceMinutes
  fits : rounded seconds ≤ Text.maxUnsigned64
  sign : (clockFace seconds places forceMinutes).negative = true ↔
    seconds < 0.0 ∧ 0 < rounded seconds
  same : ∀ other : Float, other.isFinite = true →
    (clockFace other places forceMinutes).negative =
      (clockFace seconds places forceMinutes).negative →
    (clockText other places forceMinutes = clockText seconds places forceMinutes ↔
      rounded other = rounded seconds)

section Durations

variable {seconds : Float} (places : Nat) (forceMinutes : Bool) (hfinite : seconds.isFinite = true)
include hfinite

theorem clockText_of_isFinite :
    clockText seconds places forceMinutes =
      String.ofList (Clock.ofTicks (decide (seconds < 0.0)) (Clock.ticks seconds (min places 3))
        (min places 3) forceMinutes) := if_pos hfinite

theorem clockFace_of_isFinite :
    clockFace seconds places forceMinutes =
      .ofTicks (decide (seconds < 0.0)) (Clock.ticks seconds (min places 3)) (min places 3)
        forceMinutes := by
  rw [clockFace, clockText_of_isFinite places forceMinutes hfinite, String.toList_ofList,
    ← Clock.toChars_ofTicks]
  exact Clock.Face.ofChars_toChars (Clock.numeric_ofTicks _ _ _ _)

theorem toList_clockText :
    (clockText seconds places forceMinutes).toList =
      (clockFace seconds places forceMinutes).toChars := by
  rw [clockFace_of_isFinite places forceMinutes hfinite, Clock.toChars_ofTicks,
    clockText_of_isFinite places forceMinutes hfinite, String.toList_ofList]

/-- The text of a finite duration loses nothing but the rounding, at any magnitude. -/
theorem clockText_readsBack :
    Clock.ReadsBack
      (fun s => (s.abs * Float.ofNat (Nat.pow 10 (min places 3))).round.toUInt64.toNat)
      seconds places forceMinutes := by
  show Clock.ReadsBack (fun s => Clock.ticks s (min places 3)) seconds places forceMinutes
  have hface := clockFace_of_isFinite places forceMinutes hfinite
  have hshows := Clock.shows_ofTicks (decide (seconds < 0.0)) (Clock.ticks seconds (min places 3))
    (min places 3) forceMinutes
  rw [← hface] at hshows
  constructor
  case chars => exact toList_clockText places forceMinutes hfinite
  case shows => exact hshows
  case fits =>
    exact Nat.le_of_lt_succ
      (seconds.abs * Float.ofNat (Nat.pow 10 (min places 3))).round.toUInt64.toNat_lt
  case sign =>
    rw [hface]
    simp [Clock.Face.ofTicks]
  case same =>
    intro other hother hsign
    have hfaceOther := clockFace_of_isFinite places forceMinutes hother
    constructor
    · intro htext
      have hread := Clock.shows_ofTicks (decide (other < 0.0)) (Clock.ticks other (min places 3))
        (min places 3) forceMinutes
      rw [← hfaceOther, clockFace, htext] at hread
      exact Option.some.inj (hread.ticks.symm.trans hshows.ticks)
    · intro hticks
      have hfaces :
          clockFace other places forceMinutes = clockFace seconds places forceMinutes := by
        rw [hface, hfaceOther, hticks] at hsign ⊢
        exact congrArg (Clock.Face.mk · _ _) hsign
      refine String.toList_inj.1 ?_
      rw [toList_clockText places forceMinutes hfinite,
        toList_clockText places forceMinutes hother, hfaces]

end Durations

theorem clockText_readsBack_sample :
    (-0.25 : Float).isFinite = true ∧
      Clock.ReadsBack (fun s => (s.abs * Float.ofNat (Nat.pow 10 3)).round.toUInt64.toNat)
        (-0.25) 5 true :=
  ⟨by decide, clockText_readsBack 5 true (by decide)⟩

end RaceOverlay
