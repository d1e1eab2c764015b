import RaceOverlay.Proofs.Numerals
import RaceOverlay.Proofs.Pieces
import RaceOverlay.Template.Compile

/-!
# Slot forms

What compiling makes of a fragment is one of three: a slot form, the fragment itself, or nothing. A
slot form stands for itself when it is compiled.
-/
namespace RaceOverlay.Template

open Text (decimal maxUnsigned64 isDigits digits? not_mem_decimal isDigit_of_mem_decimal
  head?_decimal_ne)

theorem splitBar_of_not_mem {cs : List Char} (h : '|' ∉ cs) : splitBar cs = (cs, none) := by
  induction cs with
  | nil => rfl
  | cons c cs ih =>
    have hc : c ≠ '|' := fun he => h (he ▸ List.mem_cons_self)
    rw [splitBar.eq_3 c cs hc, ih fun hm => h (List.mem_cons_of_mem _ hm)]

theorem splitBar_append {xs : List Char} (h : '|' ∉ xs) (ys : List Char) :
    splitBar (xs ++ '|' :: ys) = (xs, some ys) := by
  induction xs with
  | nil => rfl
  | cons c xs ih =>
    have hc : c ≠ '|' := fun he => h (he ▸ List.mem_cons_self)
    rw [List.cons_append, splitBar.eq_3 c _ hc, ih fun hm => h (List.mem_cons_of_mem _ hm)]

/-- A fragment is its primary part, or its two parts with the first bar between them. -/
theorem splitBar_cases (cs : List Char) :
    ('|' ∉ cs ∧ splitBar cs = (cs, none)) ∨
      ∃ xs ys, '|' ∉ xs ∧ cs = xs ++ '|' :: ys ∧ splitBar cs = (xs, some ys) := by
  by_cases h : '|' ∈ cs
  · obtain ⟨xs, ys, rfl, hx⟩ := List.eq_append_cons_of_mem h
    exact .inr ⟨xs, ys, hx, rfl, splitBar_append hx ys⟩
  · exact .inl ⟨h, splitBar_of_not_mem h⟩

variable {F : Type} [DecidableEq F] [TokenDomain F]

/-- Digits are a slot number or nothing known, never a name or an external reference. -/
theorem part_of_isDigits {cs : List Char} (h : isDigits cs = true) :
    part F cs = match digits? cs with
      | some n => if n ≤ maxUnsigned64 then .slot n else .unknown
      | none => .unknown := by
  rw [part, TokenDomain.ofName?_of_isDigits h]
  cases hd : digits? cs with
  | some n => rfl
  | none =>
    rw [Text.digits?_eq_none_iff, h] at hd
    cases hd

theorem part_decimal (n : Nat) :
    part F (decimal n) = if n ≤ maxUnsigned64 then .slot n else .unknown := by
  rw [part_of_isDigits (Text.isDigits_decimal n), Text.digits?_decimal]

theorem part_name (f : F) :
    part F (TokenDomain.name f).toList = .slot (TokenDomain.slot f) := by
  have hname : (TokenDomain.ofName? (TokenDomain.name f) : Option F) = some f :=
    TokenDomain.ofName?_eq_some.2 rfl
  rw [part, String.ofList_toList, hname]

theorem slot_le_of_part {cs : List Char} {n : Nat} (h : part F cs = .slot n) :
    n ≤ maxUnsigned64 := by
  unfold part at h
  split at h
  · cases h
    exact TokenDomain.slot_le _
  · split at h
    · split at h
      · cases h
        assumption
      · cases h
    · split at h
      · unfold externalPart at h
        split at h
        · split at h <;> cases h
        · cases h
      · cases h

theorem token_of_none {inner primary : List Char} (h : splitBar inner = (primary, none)) :
    token F inner = resolved inner none (part F primary) := by
  rw [token, h]

theorem token_of_empty {inner primary : List Char} (h : splitBar inner = (primary, some [])) :
    token F inner = resolved inner (some []) (part F primary) := by
  rw [token, h]

theorem token_of_some {inner primary fallback : List Char}
    (h : splitBar inner = (primary, some fallback)) (hne : fallback ≠ []) :
    token F inner = match part F fallback with
      | .slot n => resolved inner (some (decimal n)) (part F primary)
      | _ => .keep (.fragment inner) := by
  obtain ⟨c, cs, rfl⟩ := List.exists_cons_of_ne_nil hne
  cases hp : part F (c :: cs) <;> simp only [token, h, hp]

/-- The text of a compiled fragment: a slot, a slot or else nothing, or a slot or else another. The
slot of an external column may have any number. -/
inductive SlotForm : List Char → Prop where
  | slot {n : Nat} : n ≤ maxUnsigned64 → SlotForm (decimal n)
  | orEmpty (n : Nat) : SlotForm (decimal n ++ ['|'])
  | orElse (n : Nat) {m : Nat} : m ≤ maxUnsigned64 → SlotForm (decimal n ++ '|' :: decimal m)

namespace SlotForm

theorem mem {s : List Char} (h : SlotForm s) {c : Char} (hc : c ∈ s) :
    c = '|' ∨ c.isDigit = true := by
  cases h with
  | slot _ => exact .inr (isDigit_of_mem_decimal hc)
  | orEmpty n =>
    rcases List.mem_append.1 hc with hd | hb
    · exact .inr (isDigit_of_mem_decimal hd)
    · exact .inl (List.mem_singleton.1 hb)
  | orElse n _ =>
    rcases List.mem_append.1 hc with hd | hb
    · exact .inr (isDigit_of_mem_decimal hd)
    · rcases List.mem_cons.1 hb with he | hd
      · exact .inl he
      · exact .inr (isDigit_of_mem_decimal hd)

theorem not_mem {s : List Char} (h : SlotForm s) {c : Char} (hb : c ≠ '|')
    (hd : c.isDigit = false) : c ∉ s := by
  intro hc
  rcases h.mem hc with he | he
  · exact hb he
  · rw [hd] at he
    cases he

theorem isInner {s : List Char} (h : SlotForm s) : Piece.IsInner s :=
  ⟨h.not_mem (by decide) (by decide),
    fun hh => h.not_mem (c := '{') (by decide) (by decide) (List.mem_of_mem_head? hh)⟩

theorem not_script {s : List Char} (h : SlotForm s) : "script".toList.isPrefixOf s = false := by
  cases hp : "script".toList.isPrefixOf s with
  | false => rfl
  | true =>
    obtain ⟨t, rfl⟩ := List.isPrefixOf_iff_prefix.1 hp
    exact absurd (List.mem_append_left t (by decide : 's' ∈ "script".toList))
      (h.not_mem (by decide) (by decide))

end SlotForm

/-- Slot forms are left alone. -/
theorem token_of_slotForm {s : List Char} (h : SlotForm s) : token F s = .keep (.fragment s) := by
  have hbar : ∀ n, '|' ∉ decimal n := not_mem_decimal (by decide)
  cases h with
  | @slot n hn =>
    rw [token_of_none (splitBar_of_not_mem (hbar n)), part_decimal, if_pos hn]
    rfl
  | orEmpty n =>
    rw [token_of_empty (splitBar_append (hbar n) []), part_decimal]
    split <;> rfl
  | @orElse n m hm =>
    rw [token_of_some (splitBar_append (hbar n) _) (Text.decimal_ne_nil m), part_decimal, if_pos hm,
      part_decimal]
    dsimp only
    split <;> rfl

/-- The slot form of a fallback: none, an empty one, or a slot. -/
def IsFallback (fallback : Option (List Char)) : Prop :=
  fallback = none ∨ fallback = some [] ∨ ∃ m ≤ maxUnsigned64, fallback = some (decimal m)

/-- The fallback takes the place of a malformed reference. -/
theorem resolved_malformed (inner : List Char) (n : Nat) :
    resolved inner (some (decimal n)) .malformed = .keep (.fragment (decimal n)) := by
  obtain ⟨c, cs, hc⟩ := List.exists_cons_of_ne_nil (Text.decimal_ne_nil n)
  rw [hc]
  rfl

/-- A known primary part goes away or becomes a slot form. -/
theorem resolved_of_known {inner : List Char} {fallback : Option (List Char)}
    (hf : IsFallback fallback) {p : Part} (hp : ∀ n, p = .slot n → n ≤ maxUnsigned64)
    (hknown : p ≠ .unknown) :
    (∃ e, resolved inner fallback p = .drop e) ∨
      ∃ s, SlotForm s ∧ resolved inner fallback p = .keep (.fragment s) := by
  cases p with
  | slot n =>
    rcases hf with rfl | rfl | ⟨m, hm, rfl⟩
    · exact .inr ⟨_, .slot (hp n rfl), rfl⟩
    · exact .inr ⟨_, .orEmpty n, rfl⟩
    · exact .inr ⟨_, .orElse n hm, rfl⟩
  | column n =>
    rcases hf with rfl | rfl | ⟨m, hm, rfl⟩
    · exact .inr ⟨_, .orEmpty n, rfl⟩
    · exact .inr ⟨_, .orEmpty n, rfl⟩
    · exact .inr ⟨_, .orElse n hm, rfl⟩
  | malformed =>
    rcases hf with rfl | rfl | ⟨m, hm, rfl⟩
    · exact .inl ⟨_, rfl⟩
    · exact .inl ⟨_, rfl⟩
    · exact .inr ⟨decimal m, .slot hm, resolved_malformed inner m⟩
  | unknown => exact absurd rfl hknown

theorem resolved_cases {inner : List Char} {fallback : Option (List Char)}
    (hf : IsFallback fallback) {p : Part} (hp : ∀ n, p = .slot n → n ≤ maxUnsigned64) :
    resolved inner fallback p = .keep (.fragment inner) ∨
      (∃ e, resolved inner fallback p = .drop e) ∨
      ∃ s, SlotForm s ∧ resolved inner fallback p = .keep (.fragment s) := by
  by_cases hknown : p = .unknown
  · rw [hknown]
    exact .inl rfl
  · exact .inr (resolved_of_known hf hp hknown)

/-- A fragment stays as it is, goes away, or becomes a slot form. -/
theorem token_cases (F : Type) [DecidableEq F] [TokenDomain F] (inner : List Char) :
    token F inner = .keep (.fragment inner) ∨ (∃ e, token F inner = .drop e) ∨
      ∃ s, SlotForm s ∧ token F inner = .keep (.fragment s) := by
  have hle : ∀ (primary : List Char) (n : Nat), part F primary = .slot n → n ≤ maxUnsigned64 :=
    fun _ _ => slot_le_of_part
  rcases splitBar_cases inner with ⟨-, hs⟩ | ⟨primary, fallback, -, -, hs⟩
  · rw [token_of_none hs]
    exact resolved_cases (.inl rfl) (hle _)
  · by_cases hne : fallback = []
    · subst hne
      rw [token_of_empty hs]
      exact resolved_cases (.inr (.inl rfl)) (hle _)
    · rw [token_of_some hs hne]
      cases hm : part F fallback with
      | slot m => exact resolved_cases (.inr (.inr ⟨m, hle _ m hm, rfl⟩)) (hle _)
      | column m => exact .inl rfl
      | malformed => exact .inl rfl
      | unknown => exact .inl rfl

end RaceOverlay.Template
