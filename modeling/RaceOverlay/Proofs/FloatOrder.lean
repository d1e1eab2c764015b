import Mathlib.Order.Lattice

/-!
# How floats compare

Floats are compared by their unpacked values: by class and sign first, and finite ones of one sign
by exponent and mantissa. A NaN compares with nothing. All other floats compare one way or the
other, the two ways round agree, and comparisons chain, as they are those of keys of three integers.
-/
namespace RaceOverlay

open Float.Model (UnpackedFloat)

/-- A comparison the other way round has the opposite result, or none as well. -/
theorem compare_swap (a b : UnpackedFloat) : b.compare a = (a.compare b).map Ordering.swap := by
  cases a with
  | notANumber =>
    cases b with
    | infinity t | finite t _ _ _ => cases t <;> rfl
    | notANumber | zero _ => rfl
  | zero s =>
    cases b with
    | infinity t | finite t _ _ _ => cases t <;> rfl
    | notANumber | zero _ => rfl
  | infinity s =>
    cases b with
    | infinity t | finite t _ _ _ => cases s <;> cases t <;> rfl
    | notANumber | zero _ => cases s <;> rfl
  | finite s m e _ =>
    have hthen (n : Nat) (f : Int) : (compare f e).then (compare n m) =
        ((compare e f).then (compare m n)).swap := by
      rw [Ordering.swap_then, Int.compare_swap, Nat.compare_swap]
    cases b with
    | finite t n f _ =>
      cases s with
      | positive =>
        cases t with
        | positive => exact congrArg some (hthen n f)
        | negative => rfl
      | negative =>
        cases t with
        | positive => rfl
        | negative => exact congrArg (fun o => some o.swap) (hthen n f)
    | infinity t => cases s <;> cases t <;> rfl
    | notANumber | zero _ => cases s <;> rfl

private theorem isSome_compare (a b : UnpackedFloat) :
    (a.compare b).isSome = (!a.isNaN && !b.isNaN) := by
  cases a with
  | notANumber => rfl
  | zero s =>
    cases b with
    | infinity t | finite t _ _ _ => cases t <;> rfl
    | notANumber | zero _ => rfl
  | infinity s | finite s _ _ _ =>
    cases b with
    | infinity t | finite t _ _ _ => cases s <;> cases t <;> rfl
    | notANumber | zero _ => cases s <;> rfl

private theorem eq_of_compare_then {e f : Int} {m n : Nat}
    (h : (compare e f).then (compare m n) = .eq) : m = n ∧ e = f := by
  obtain ⟨he, hm⟩ := Ordering.then_eq_eq.1 h
  exact ⟨Nat.compare_eq_eq.1 hm, Int.compare_eq_eq.1 he⟩

/-- Floats that compare as equal are the same, or zeros of any signs. -/
theorem eq_or_zeros_of_compare {a b : UnpackedFloat} (h : a.compare b = some .eq) :
    a = b ∨ ∃ s t, a = .zero s ∧ b = .zero t := by
  cases a with
  | notANumber => cases h
  | zero s =>
    cases b with
    | zero t => exact .inr ⟨s, t, rfl, rfl⟩
    | notANumber => cases h
    | infinity t => cases t <;> cases h
    | finite t m e hm => cases t <;> cases h
  | infinity s =>
    cases b with
    | infinity t => cases s <;> cases t <;> first | exact .inl rfl | cases h
    | notANumber | zero _ | finite _ _ _ _ => cases s <;> cases h
  | finite s m e hm =>
    cases b with
    | finite t n f hn =>
      cases s with
      | positive =>
        cases t with
        | positive =>
          have hthen : (compare e f).then (compare m n) = .eq := Option.some.inj h
          obtain ⟨rfl, rfl⟩ := eq_of_compare_then hthen
          exact .inl rfl
        | negative => cases h
      | negative =>
        cases t with
        | positive => cases h
        | negative =>
          have hswap : ((compare e f).then (compare m n)).swap = .eq := Option.some.inj h
          obtain ⟨rfl, rfl⟩ := eq_of_compare_then (Ordering.swap_eq_eq.1 hswap)
          exact .inl rfl
    | notANumber | zero _ => cases s <;> cases h
    | infinity t => cases t <;> cases s <;> cases h

/-- The side of zero that a float is on, then its exponent and mantissa, both negated below zero.
The infinities are a side of their own. -/
def orderKey : UnpackedFloat → Int × Int × Int
  | .notANumber | .zero _ => (0, 0, 0)
  | .infinity .negative => (-2, 0, 0)
  | .infinity .positive => (2, 0, 0)
  | .finite .negative m e _ => (-1, -e, -Int.ofNat m)
  | .finite .positive m e _ => (1, e, Int.ofNat m)

/-- Three numbers, the first of which counts most. -/
def keyCompare (k l : Int × Int × Int) : Ordering :=
  (compare k.1 l.1).then ((compare k.2.1 l.2.1).then (compare k.2.2 l.2.2))

private theorem keyCompare_eq_lt_iff {k l : Int × Int × Int} :
    keyCompare k l = .lt ↔
      k.1 < l.1 ∨ k.1 = l.1 ∧ (k.2.1 < l.2.1 ∨ k.2.1 = l.2.1 ∧ k.2.2 < l.2.2) := by
  simp only [keyCompare, Ordering.then_eq_lt, Int.compare_eq_lt, Int.compare_eq_eq]

private theorem compare_neg (p q : Int) : compare (-p) (-q) = (compare p q).swap := by
  rw [Int.compare_swap]
  rcases Int.lt_trichotomy p q with h | rfl | h
  · rw [Int.compare_eq_gt.2 h, Int.compare_eq_gt.2 (by omega)]
  · rw [Int.compare_eq_eq.2 rfl, Int.compare_eq_eq.2 rfl]
  · rw [Int.compare_eq_lt.2 h, Int.compare_eq_lt.2 (by omega)]

private theorem compare_ofNat (m n : Nat) : compare (Int.ofNat m) (Int.ofNat n) = compare m n := by
  rcases Nat.lt_trichotomy m n with h | rfl | h
  · exact (Int.compare_eq_lt.2 (Int.ofNat_lt.2 h)).trans (Nat.compare_eq_lt.2 h).symm
  · rw [Nat.compare_eq_eq.2 rfl, Int.compare_eq_eq.2 rfl]
  · exact (Int.compare_eq_gt.2 (Int.ofNat_lt.2 h)).trans (Nat.compare_eq_gt.2 h).symm

/-- Floats that are no NaN compare as their keys do. -/
theorem compare_eq_keyCompare {a b : UnpackedFloat} (ha : a.isNaN = false) (hb : b.isNaN = false) :
    a.compare b = some (keyCompare (orderKey a) (orderKey b)) := by
  cases a with
  | notANumber => cases ha
  | zero s =>
    cases b with
    | notANumber => cases hb
    | infinity t | finite t _ _ _ => cases t <;> rfl
    | zero _ => rfl
  | infinity s =>
    cases b with
    | notANumber => cases hb
    | infinity t | finite t _ _ _ => cases s <;> cases t <;> rfl
    | zero _ => cases s <;> rfl
  | finite s m e _ =>
    cases b with
    | notANumber => cases hb
    | zero _ => cases s <;> rfl
    | infinity t => cases s <;> cases t <;> rfl
    | finite t n f _ =>
      cases s with
      | positive =>
        cases t with
        | positive =>
          have hkeys : (compare e f).then (compare m n) =
              (compare e f).then (compare (Int.ofNat m) (Int.ofNat n)) := by rw [compare_ofNat]
          exact congrArg some hkeys
        | negative => rfl
      | negative =>
        cases t with
        | positive => rfl
        | negative =>
          have hkeys : ((compare e f).then (compare m n)).swap =
              (compare (-e) (-f)).then (compare (-Int.ofNat m) (-Int.ofNat n)) := by
            rw [Ordering.swap_then, compare_neg, compare_neg, compare_ofNat]
          exact congrArg some hkeys

variable {a b : Float}

theorem float_lt_iff : a < b ↔ a.toModel.unpack.compare b.toModel.unpack = some .lt := by
  show decide (a.toModel.unpack.lt b.toModel.unpack = true) = true ↔ _
  rw [decide_eq_true_eq]
  exact beq_iff_eq

theorem float_le_iff :
    a ≤ b ↔ ∃ o, a.toModel.unpack.compare b.toModel.unpack = some o ∧ o.isLE = true := by
  show decide (a.toModel.unpack.le b.toModel.unpack = true) = true ↔ _
  rw [decide_eq_true_eq]
  exact Option.any_eq_true _ _

theorem not_lt_of_float_le (h : a ≤ b) : ¬ b < a := by
  obtain ⟨o, ho, hle⟩ := float_le_iff.1 h
  rw [float_lt_iff, compare_swap a.toModel.unpack, ho]
  intro hswap
  cases o with
  | lt => cases hswap
  | eq => cases hswap
  | gt => cases hle

theorem float_le_of_lt (h : a < b) : a ≤ b := float_le_iff.2 ⟨.lt, float_lt_iff.1 h, rfl⟩

theorem isNaN_of_lt (h : a < b) : a.isNaN = false ∧ b.isNaN = false := by
  have hsome := isSome_compare a.toModel.unpack b.toModel.unpack
  rw [float_lt_iff.1 h, Option.isSome_some] at hsome
  obtain ⟨ha, hb⟩ := Bool.and_eq_true_iff.1 hsome.symm
  exact ⟨(Bool.not_eq_true' _).mp ha, (Bool.not_eq_true' _).mp hb⟩

/-- Floats that are no NaN compare one way or the other. -/
theorem float_le_of_not_lt (ha : a.isNaN = false) (hb : b.isNaN = false) (h : ¬ b < a) :
    a ≤ b := by
  have hsome := isSome_compare a.toModel.unpack b.toModel.unpack
  have hna : a.toModel.unpack.isNaN = false := ha
  have hnb : b.toModel.unpack.isNaN = false := hb
  rw [hna, hnb] at hsome
  obtain ⟨o, ho⟩ := Option.isSome_iff_exists.1 hsome
  refine float_le_iff.2 ⟨o, ho, ?_⟩
  cases o with
  | lt | eq => rfl
  | gt =>
    rw [float_lt_iff, compare_swap a.toModel.unpack, ho] at h
    exact absurd rfl h

theorem float_lt_of_lt_of_le {c : Float} (hab : a < b) (hbc : b ≤ c) : a < c := by
  obtain ⟨ha, hb⟩ := isNaN_of_lt hab
  have hc : c.toModel.unpack.isNaN = false := by
    obtain ⟨o, ho, -⟩ := float_le_iff.1 hbc
    have hsome := isSome_compare b.toModel.unpack c.toModel.unpack
    rw [ho, Option.isSome_some] at hsome
    exact (Bool.not_eq_true' _).mp (Bool.and_eq_true_iff.1 hsome.symm).2
  have hcb := not_lt_of_float_le hbc
  rw [float_lt_iff, compare_eq_keyCompare ha hb, Option.some.injEq, keyCompare_eq_lt_iff] at hab
  rw [float_lt_iff, compare_eq_keyCompare hc hb, Option.some.injEq, keyCompare_eq_lt_iff] at hcb
  rw [float_lt_iff, compare_eq_keyCompare ha hc, Option.some.injEq, keyCompare_eq_lt_iff]
  omega

end RaceOverlay
