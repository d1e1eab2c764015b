import RaceOverlay.Token.Domain

/-!
# Numerals and names

A numeral consists of digits, so it has no sign, no bar and no brace, and it is no name of a field.
-/
namespace RaceOverlay

namespace Text

theorem isDigit_of_mem_decimal {n : Nat} {c : Char} (h : c ∈ decimal n) : c.isDigit = true :=
  Nat.isDigit_of_mem_toDigits (by decide) (by decide) h

theorem decimal_ne_nil (n : Nat) : decimal n ≠ [] := Nat.toDigits_ne_nil

theorem not_mem_decimal {c : Char} (hc : c.isDigit = false) (n : Nat) : c ∉ decimal n := by
  intro h
  rw [isDigit_of_mem_decimal h] at hc
  cases hc

theorem isDigits_iff {cs : List Char} :
    isDigits cs = true ↔ cs ≠ [] ∧ ∀ c ∈ cs, c.isDigit = true := by
  simp [isDigits]

theorem digits?_eq_none_iff {cs : List Char} : digits? cs = none ↔ isDigits cs = false := by
  unfold digits?
  split <;> simp_all

/-- Without a plus in front, an unsigned numeral is a text of digits that fits 64 bits. -/
theorem unsigned64?_of_head {cs : List Char} (h : cs.head? ≠ some '+') :
    unsigned64? cs = (digits? cs).filter (· ≤ maxUnsigned64) := by
  unfold unsigned64? natural?
  split
  · rename_i rest _
    exact absurd rfl h
  · rfl

theorem head?_decimal_ne {c : Char} (hc : c.isDigit = false) (n : Nat) :
    (decimal n).head? ≠ some c :=
  fun h => not_mem_decimal hc n (List.mem_of_mem_head? h)

theorem unsigned64?_decimal (n : Nat) :
    unsigned64? (decimal n) = if n ≤ maxUnsigned64 then some n else none := by
  rw [unsigned64?_of_head (head?_decimal_ne (by decide) n), digits?_decimal]
  by_cases h : n ≤ maxUnsigned64
  · simp [h]
  · have hl : maxUnsigned64 < n := Nat.lt_of_not_le h
    simp [h, hl]

theorem le_of_unsigned64? {cs : List Char} {n : Nat} (h : unsigned64? cs = some n) :
    n ≤ maxUnsigned64 :=
  of_decide_eq_true (Option.filter_eq_some_iff.1 h).2

theorem mem_of_unsigned64? {cs : List Char} {n : Nat} (h : unsigned64? cs = some n) {c : Char}
    (hc : c ∈ cs) : c = '+' ∨ c.isDigit = true := by
  have hdigit : ∀ {ds : List Char}, ((digits? ds).filter (· ≤ maxUnsigned64)) = some n →
      ∀ d ∈ ds, d.isDigit = true := by
    intro ds hds d hd
    have hne : digits? ds ≠ none := by
      intro hn
      rw [hn] at hds
      cases hds
    have hall : isDigits ds = true := by
      rw [ne_eq, digits?_eq_none_iff] at hne
      simpa using hne
    exact (isDigits_iff.1 hall).2 d hd
  unfold unsigned64? natural? at h
  split at h
  · rcases List.mem_cons.1 hc with rfl | hr
    · exact .inl rfl
    · exact .inr (hdigit h c hr)
  · exact .inr (hdigit h c hc)

theorem toList_toString (n : Int) :
    (toString n).toList = if 0 ≤ n then decimal n.toNat else '-' :: decimal (-n).toNat := by
  rw [Int.toString_eq_repr, Int.repr_eq_if]
  split
  · exact Nat.toList_repr
  · rw [String.toList_append, Nat.toList_repr]
    rfl

theorem integer?_of_digits? {lo hi : Int} {cs : List Char} {n : Nat} (hread : digits? cs = some n)
    (h : lo ≤ n ∧ n ≤ hi) : integer? lo hi cs = some (n : Int) := by
  have hno : ∀ {c : Char} {rest : List Char}, c.isDigit = false → cs ≠ c :: rest := by
    rintro c rest hc rfl
    rw [digits?_eq_none_iff.2 (by simp [isDigits, hc])] at hread
    cases hread
  rw [integer?, hread]
  · exact Option.filter_some_pos (decide_eq_true h)
  · exact fun rest => hno (by decide)
  · exact fun rest => hno (by decide)

section Signed

variable {lo hi : Int} (n : Nat)

theorem integer?_decimal (h : lo ≤ n ∧ n ≤ hi) : integer? lo hi (decimal n) = some (n : Int) :=
  integer?_of_digits? (digits?_decimal n) h

theorem integer?_plus (h : lo ≤ n ∧ n ≤ hi) :
    integer? lo hi ('+' :: decimal n) = some (n : Int) := by
  rw [integer?, digits?_decimal]
  exact Option.filter_some_pos (decide_eq_true h)

private theorem integer?_minus (h : lo ≤ -n ∧ -n ≤ hi) :
    integer? lo hi ('-' :: decimal n) = some (-n : Int) := by
  rw [integer?, digits?_decimal]
  exact Option.filter_some_pos (decide_eq_true h)

end Signed

/-- An integer is read back from its text, whatever bounds it is within. -/
theorem integer?_toString {n lo hi : Int} (hlo : lo ≤ n) (hhi : n ≤ hi) :
    integer? lo hi (toString n).toList = some n := by
  rw [toList_toString]
  split
  · have hnat : (n.toNat : Int) = n := by omega
    rw [integer?_decimal _ (by omega), hnat]
  · have hnat : -((-n).toNat : Int) = n := by omega
    rw [integer?_minus _ (by omega), hnat]

theorem eq_of_toString_eq {m n : Int} (h : toString m = toString n) : m = n := by
  have hm : integer? (min m n) (max m n) (toString m).toList = some m :=
    integer?_toString (by omega) (by omega)
  have hn : integer? (min m n) (max m n) (toString n).toList = some n :=
    integer?_toString (by omega) (by omega)
  rw [h, hn] at hm
  exact (Option.some.inj hm).symm

end Text

namespace TokenDomain

variable {F : Type} [DecidableEq F] [TokenDomain F]

private theorem head_isWord {c : Char} {cs : List Char} (h : isWord (c :: cs) = true) :
    c.isLower = true := by
  simp only [isWord, Bool.and_eq_true] at h
  exact h.1

private theorem mem_isWord {cs : List Char} (h : isWord cs = true) {c : Char} (hc : c ∈ cs) :
    c.isLower = true ∨ c.isDigit = true ∨ c = '_' := by
  cases cs with
  | nil => cases hc
  | cons d cs =>
    simp only [isWord, Bool.and_eq_true, List.all_eq_true, Bool.or_eq_true, beq_iff_eq,
      or_assoc] at h
    rcases List.mem_cons.1 hc with rfl | hm
    · exact .inl h.1
    · exact h.2 c hm

theorem name_ne_nil (f : F) : (name f).toList ≠ [] := by
  intro he
  have hw := name_word f
  rw [he] at hw
  cases hw

theorem not_mem_name {c : Char} (hlower : c.isLower = false) (hdigit : c.isDigit = false)
    (hline : c ≠ '_') (f : F) : c ∉ (name f).toList := by
  intro h
  rcases mem_isWord (name_word f) h with hl | hd | he
  · rw [hlower] at hl
    cases hl
  · rw [hdigit] at hd
    cases hd
  · exact hline he

private theorem isLower_not_digit {c : Char} (h : c.isLower = true) : c.isDigit = false := by
  have hlower : 'a'.val ≤ c.val := by
    have hboth : (decide ('a'.val ≤ c.val) && decide (c.val ≤ 'z'.val)) = true := h
    exact of_decide_eq_true (Bool.and_eq_true_iff.1 hboth).1
  cases hd : c.isDigit with
  | false => rfl
  | true =>
    have hboth : (decide ('0'.val ≤ c.val) && decide (c.val ≤ '9'.val)) = true := hd
    have hdigit : c.val ≤ '9'.val := of_decide_eq_true (Bool.and_eq_true_iff.1 hboth).2
    exact absurd (UInt32.le_trans hlower hdigit) (by decide)

theorem isDigits_name (f : F) : Text.isDigits (name f).toList = false := by
  have hw := name_word f
  cases hn : (name f).toList with
  | nil => rfl
  | cons c cs =>
    rw [hn] at hw
    have hd := isLower_not_digit (head_isWord hw)
    simp [Text.isDigits, hd]

/-- The number of a slot is no name. -/
theorem ofName?_of_isDigits {cs : List Char} (h : Text.isDigits cs = true) :
    (ofName? (String.ofList cs) : Option F) = none := by
  cases hf : (ofName? (String.ofList cs) : Option F) with
  | none => rfl
  | some f =>
    have hn := isDigits_name f
    rw [ofName?_eq_some.1 hf, String.toList_ofList, h] at hn
    cases hn

theorem slot_le (f : F) : slot f ≤ Text.maxUnsigned64 :=
  Nat.le_trans (Nat.le_of_lt (slot_lt f)) length_all_le

end TokenDomain

end RaceOverlay
