import RaceOverlay.Proofs.CompiledFragments
import RaceOverlay.Proofs.LiteralResults
import RaceOverlay.Proofs.NamedRendering

/-!
# Labels that are flagged

What compiling does not resolve stays in the format as text, and rendering flags it because it is
no slot form. Both read slot numbers in that text, but not in the same way: compiling takes digits
alone, and rendering takes a plus in front of them, too. So rendering finds slots in some fragments
that were not resolved, and numbers with a plus are all that it finds. Every other unresolved
fragment flags its label whatever the fields hold.
-/
namespace RaceOverlay.Template

open Format (slotText?)
open Reading (NoPlus isCall fillable)
open Text (decimal maxUnsigned64 unsigned64? unsigned64?_decimal not_mem_decimal)

/-- Both parts of the fragment are read as numbers of slots. -/
structure ReadsSlots (inner : List Char) : Prop where
  primary : (unsigned64? (splitBar inner).1).isSome = true
  fallback : ∀ fallback ≠ [], (splitBar inner).2 = some fallback →
    (unsigned64? fallback).isSome = true

section Parts

variable {inner primary fallback : List Char}

private theorem readsSlots_iff_of_none (hs : splitBar inner = (primary, none)) :
    ReadsSlots inner ↔ (unsigned64? primary).isSome = true := by
  constructor
  · intro h
    have hprimary := h.primary
    rwa [hs] at hprimary
  · intro h
    refine ⟨by rwa [hs], fun f _ hsome => ?_⟩
    rw [hs] at hsome
    cases hsome

private theorem readsSlots_iff_of_empty (hs : splitBar inner = (primary, some [])) :
    ReadsSlots inner ↔ (unsigned64? primary).isSome = true := by
  constructor
  · intro h
    have hprimary := h.primary
    rwa [hs] at hprimary
  · intro h
    refine ⟨by rwa [hs], fun f hne hsome => ?_⟩
    rw [hs] at hsome
    exact absurd (Option.some.inj hsome).symm hne

private theorem readsSlots_iff_of_some (hs : splitBar inner = (primary, some fallback))
    (hne : fallback ≠ []) : ReadsSlots inner ↔
      (unsigned64? primary).isSome = true ∧ (unsigned64? fallback).isSome = true := by
  constructor
  · intro h
    have hprimary := h.primary
    rw [hs] at hprimary
    exact ⟨hprimary, h.fallback fallback hne (by rw [hs])⟩
  · rintro ⟨hprimary, hfallback⟩
    refine ⟨by rwa [hs], fun f _ hsome => ?_⟩
    rw [hs] at hsome
    obtain rfl := Option.some.inj hsome
    exact hfallback

end Parts

section Lookups

variable {lookup : Nat → Option String} {inner : List Char}

theorem readsSlots_of_slotText? {text : String} (h : slotText? lookup inner = some text) :
    ReadsSlots inner := by
  rcases splitBar_cases inner with ⟨-, hs⟩ | ⟨primary, fallback, -, -, hs⟩
  · rw [Format.slotText?_of_none _ hs] at h
    obtain ⟨n, hn, -⟩ := Option.bind_eq_some_iff.1 h
    exact (readsSlots_iff_of_none hs).2 (Option.isSome_of_eq_some hn)
  · by_cases hne : fallback = []
    · subst hne
      rw [Format.slotText?_of_empty _ hs] at h
      obtain ⟨n, hn, -⟩ := Option.map_eq_some_iff.1 h
      exact (readsSlots_iff_of_empty hs).2 (Option.isSome_of_eq_some hn)
    · rw [Format.slotText?_of_some _ hs hne] at h
      obtain ⟨n, hn, h⟩ := Option.bind_eq_some_iff.1 h
      obtain ⟨m, hm, -⟩ := Option.bind_eq_some_iff.1 h
      exact (readsSlots_iff_of_some hs hne).2
        ⟨Option.isSome_of_eq_some hn, Option.isSome_of_eq_some hm⟩

/-- Where every number of 64 bits has a text, numbers are all that is needed. -/
theorem isSome_slotText? (hlookup : ∀ n ≤ maxUnsigned64, (lookup n).isSome = true)
    (h : ReadsSlots inner) : (slotText? lookup inner).isSome = true := by
  rcases splitBar_cases inner with ⟨-, hs⟩ | ⟨primary, fallback, -, -, hs⟩
  · obtain ⟨n, hn⟩ := Option.isSome_iff_exists.1 ((readsSlots_iff_of_none hs).1 h)
    rw [Format.slotText?_of_none _ hs, hn]
    exact hlookup n (Text.le_of_unsigned64? hn)
  · by_cases hne : fallback = []
    · subst hne
      obtain ⟨n, hn⟩ := Option.isSome_iff_exists.1 ((readsSlots_iff_of_empty hs).1 h)
      rw [Format.slotText?_of_empty _ hs, hn]
      rfl
    · obtain ⟨hprimary, hfallback⟩ := (readsSlots_iff_of_some hs hne).1 h
      obtain ⟨n, hn⟩ := Option.isSome_iff_exists.1 hprimary
      obtain ⟨m, hm⟩ := Option.isSome_iff_exists.1 hfallback
      rw [Format.slotText?_of_some _ hs hne, hn, hm]
      show ((lookup n).or (lookup m)).isSome = true
      rw [Option.isSome_or, hlookup n (Text.le_of_unsigned64? hn)]
      rfl

theorem fillable_eq_false (h : ¬ ReadsSlots inner) :
    fillable (slotText? lookup) (.fragment inner) = false := by
  show (slotText? lookup inner).isSome = false
  cases ht : slotText? lookup inner with
  | none => rfl
  | some text => exact absurd (readsSlots_of_slotText? ht) h

end Lookups

section Decimals

variable {n : Nat}

private theorem isSome_unsigned64?_decimal :
    (unsigned64? (decimal n)).isSome = true ↔ n ≤ maxUnsigned64 := by
  rw [unsigned64?_decimal]
  by_cases hn : n ≤ maxUnsigned64
  · simp [hn]
  · simp [hn]

private theorem readsSlots_decimal (hn : n ≤ maxUnsigned64) : ReadsSlots (decimal n) :=
  (readsSlots_iff_of_none (splitBar_of_not_mem (not_mem_decimal (by decide) n))).2
    (isSome_unsigned64?_decimal.2 hn)

private theorem readsSlots_decimal_bar (hn : n ≤ maxUnsigned64) : ReadsSlots (decimal n ++ ['|']) :=
  (readsSlots_iff_of_empty (splitBar_append (not_mem_decimal (by decide) n) [])).2
    (isSome_unsigned64?_decimal.2 hn)

private theorem readsSlots_decimal_bar_decimal (hn : n ≤ maxUnsigned64) {m : Nat}
    (hm : m ≤ maxUnsigned64) : ReadsSlots (decimal n ++ '|' :: decimal m) :=
  (readsSlots_iff_of_some (splitBar_append (not_mem_decimal (by decide) n) _)
    (Text.decimal_ne_nil m)).2
    ⟨isSome_unsigned64?_decimal.2 hn, isSome_unsigned64?_decimal.2 hm⟩

end Decimals

section Fragments

variable (F : Type) [DecidableEq F] [TokenDomain F]

/-- Compiling leaves the piece for rendering to flag. -/
def Unresolved : Piece → Prop
  | .fragment inner =>
    ¬ "script".toList <+: inner ∧ (IsUnknown F (splitBar inner).1 ∨ HasBadFallback F inner)
  | .unclosed _ => True
  | .plain _ | .brace => False

/-- The parts of the fragment are numbers of slots, and a plus is in front of one. -/
def SignedSlots : Piece → Prop
  | .fragment inner => ReadsSlots inner ∧ ¬ NoPlus inner
  | _ => False

/-- The piece cannot be filled, whatever the fields hold. -/
def Flagged (p : Piece) : Prop := Unresolved F p ∧ ¬ SignedSlots p

variable {F} {scripts : List String} {inner : List Char}

/-- Without a plus, rendering reads no number where compiling read none. -/
theorem not_readsSlots_of_noPlus (hleft : IsUnknown F (splitBar inner).1 ∨ HasBadFallback F inner)
    (hplus : NoPlus inner) : ¬ ReadsSlots inner := by
  rintro ⟨hprimary, hfallback⟩
  rcases hleft with hunknown | ⟨fallback, hne, hs, hbad⟩
  · have hslot : ∀ n, part F (splitBar inner).1 ≠ .slot n :=
      fun n hn => hunknown.1 (namesSlot_iff.2 ⟨n, hn⟩)
    rw [Reference.unsigned64?_eq_none hplus.1 hslot] at hprimary
    cases hprimary
  · have hslot : ∀ n, part F fallback ≠ .slot n := fun n hn => hbad (namesSlot_iff.2 ⟨n, hn⟩)
    have hread := hfallback fallback hne hs
    rw [Reference.unsigned64?_eq_none (hplus.2 fallback hs) hslot] at hread
    cases hread

theorem token_of_unresolved (hleft : IsUnknown F (splitBar inner).1 ∨ HasBadFallback F inner) :
    token F inner = .keep (.fragment inner) := by
  by_cases hbad : HasBadFallback F inner
  · exact token_of_hasBadFallback hbad
  · obtain ⟨fallback, -, ht⟩ := token_of_not_hasBadFallback hbad
    rw [ht, isUnknown_iff.1 (hleft.resolve_right hbad)]
    rfl

theorem outcome_of_unresolved {p : Piece} (h : Unresolved F p) : outcome F scripts p = .keep p := by
  cases p with
  | plain c => exact h.elim
  | brace => exact h.elim
  | unclosed rest => rfl
  | fragment inner => rw [outcome, fragment_eq_token h.1, token_of_unresolved h.2]

theorem not_readsSlots_iff (hleft : IsUnknown F (splitBar inner).1 ∨ HasBadFallback F inner) :
    ¬ ReadsSlots inner ↔ ¬ SignedSlots (.fragment inner) := by
  constructor
  · intro h hsigned
    exact h hsigned.1
  · intro h hreads
    exact h ⟨hreads, fun hplus => not_readsSlots_of_noPlus hleft hplus hreads⟩

theorem not_fillable_of_flagged {p : Piece} (h : Flagged F p) (lookup : Nat → Option String) :
    fillable (slotText? lookup) p = false := by
  obtain ⟨hunresolved, hsigned⟩ := h
  cases p with
  | plain c => exact hunresolved.elim
  | brace => exact hunresolved.elim
  | unclosed rest => rfl
  | fragment inner => exact fillable_eq_false ((not_readsSlots_iff hunresolved.2).2 hsigned)

/-- What a part within 64 bits is resolved to can be read. -/
theorem readsSlots_of_resolved {fallback : Option (List Char)} (hf : IsFallback fallback)
    {p : Part} (hslot : ∀ n, p = .slot n → n ≤ maxUnsigned64)
    (hcolumn : ∀ n, p = .column n → n ≤ maxUnsigned64) (hknown : p ≠ .unknown) {q : Piece}
    (hq : (resolved inner fallback p).piece? = some q) : ∃ s, q = .fragment s ∧ ReadsSlots s := by
  cases p with
  | slot n =>
    rcases hf with rfl | rfl | ⟨m, hm, rfl⟩
    · cases hq
      exact ⟨_, rfl, readsSlots_decimal (hslot n rfl)⟩
    · cases hq
      exact ⟨_, rfl, readsSlots_decimal_bar (hslot n rfl)⟩
    · cases hq
      exact ⟨_, rfl, readsSlots_decimal_bar_decimal (hslot n rfl) hm⟩
  | column n =>
    rcases hf with rfl | rfl | ⟨m, hm, rfl⟩
    · cases hq
      exact ⟨_, rfl, readsSlots_decimal_bar (hcolumn n rfl)⟩
    · cases hq
      exact ⟨_, rfl, readsSlots_decimal_bar (hcolumn n rfl)⟩
    · cases hq
      exact ⟨_, rfl, readsSlots_decimal_bar_decimal (hcolumn n rfl) hm⟩
  | malformed =>
    rcases hf with rfl | rfl | ⟨m, hm, rfl⟩
    · cases hq
    · cases hq
    · rw [resolved_malformed] at hq
      cases hq
      exact ⟨_, rfl, readsSlots_decimal hm⟩
  | unknown => exact absurd rfl hknown

/-- Whatever is not flagged can be filled where every number of 64 bits has a text. -/
theorem fillable_of_not_flagged {p q : Piece} (h : ¬ Flagged F p)
    (hcall : ∀ inner, p = .fragment inner → isCall scripts inner = false)
    (hq : (outcome F scripts p).piece? = some q) {lookup : Nat → Option String}
    (hlookup : ∀ n ≤ maxUnsigned64, (lookup n).isSome = true) :
    fillable (slotText? lookup) q = true := by
  cases p with
  | plain c =>
    cases hq
    rfl
  | brace =>
    cases hq
    rfl
  | unclosed rest => exact absurd ⟨trivial, id⟩ h
  | fragment inner =>
    rw [outcome] at hq
    by_cases hscript : "script".toList <+: inner
    · rw [fragment, if_pos (List.isPrefixOf_iff_prefix.2 hscript),
        Reading.findCall?_eq_none_iff.2 (hcall inner rfl)] at hq
      cases hq
    · rw [fragment_eq_token hscript] at hq
      have hreads : ∃ s, q = .fragment s ∧ ReadsSlots s := by
        by_cases hleft : IsUnknown F (splitBar inner).1 ∨ HasBadFallback F inner
        · rw [token_of_unresolved hleft] at hq
          cases hq
          refine ⟨inner, rfl, ?_⟩
          by_contra hreads
          exact h ⟨⟨hscript, hleft⟩, (not_readsSlots_iff hleft).1 hreads⟩
        · obtain ⟨hknown, hbad⟩ := not_or.1 hleft
          obtain ⟨fallback, hf, ht⟩ := token_of_not_hasBadFallback hbad
          rw [ht] at hq
          exact readsSlots_of_resolved hf (fun _ => slot_le_of_part) (fun _ => column_le_of_part)
            (fun hu => hknown (isUnknown_iff.2 hu)) hq
      obtain ⟨s, rfl, hs⟩ := hreads
      exact isSome_slotText? hlookup hs

end Fragments

end RaceOverlay.Template

namespace RaceOverlay

namespace Label

open Template
open Format (fill slotText?)
open Reading (isCall fillable)
open Text (maxUnsigned64)

theorem exists_error_iff (lookup : Nat → Option String) (cs : List Char) :
    (∃ e, fill lookup cs = .error e) ↔
      ∃ q ∈ pieces cs, fillable (slotText? lookup) q = false := by
  have hsome : (fill lookup cs).toOption.isSome =
      (pieces cs).all (fillable (slotText? lookup)) := by
    rw [Reading.toOption_fill, Reading.isSome_scan]
    rfl
  have hall : (∃ q ∈ pieces cs, fillable (slotText? lookup) q = false) ↔
      (pieces cs).all (fillable (slotText? lookup)) = false := by
    simp [List.all_eq_false]
  rw [hall, ← hsome]
  cases fill lookup cs with
  | error e => simp [Except.toOption]
  | ok text => simp [Except.toOption]

section Flagging

variable {F : Type} [DecidableEq F] [TokenDomain F] {scripts : List String} {source : String}
variable {r : Rounding} {u : Bool}

theorem mem_pieces_format {q : Piece} :
    q ∈ pieces (compile F scripts source r u).1.format.toList ↔
      ∃ p ∈ pieces source.toList, (outcome F scripts p).piece? = some q := by
  rw [format_compile, String.toList_ofList, pieces_formatOf, kept, List.mem_filterMap]

theorem mem_pieces_format_of_unresolved {p : Piece} (hp : p ∈ pieces source.toList)
    (h : Unresolved F p) : p ∈ pieces (compile F scripts source r u).1.format.toList :=
  mem_pieces_format.2 ⟨p, hp, by rw [outcome_of_unresolved h]; rfl⟩

private theorem render_of_error {label : Label} {fields : Fields F} {results : List String}
    {e : BadFragment} (h : fill fields.slot? (label.spliced results) = .error e) :
    label.render fields results =
      if label.uppercase then Text.uppercase brokenText else brokenText := by
  rw [render, h]

/-- With texts for all numbers of 64 bits, only a flagged piece is an error. -/
theorem exists_flagged
    (hcalls : ∀ inner, .fragment inner ∈ pieces source.toList → isCall scripts inner = false)
    {e : BadFragment}
    (h : fill (Fields.filled F (maxUnsigned64 + 1)).slot?
      (compile F scripts source r u).1.format.toList = .error e) :
    ∃ p ∈ pieces source.toList, Flagged F p := by
  obtain ⟨q, hq, hbroken⟩ := (exists_error_iff _ _).1 ⟨e, h⟩
  obtain ⟨p, hp, hkept⟩ := mem_pieces_format.1 hq
  refine ⟨p, hp, ?_⟩
  by_contra hflagged
  have hcall : ∀ inner, p = .fragment inner → isCall scripts inner = false := by
    rintro inner rfl
    exact hcalls inner hp
  have hfilled := fillable_of_not_flagged hflagged hcall hkept fun n hn =>
    Fields.isSome_slot?_filled (F := F) (Nat.lt_succ_of_le hn)
  rw [hfilled] at hbroken
  cases hbroken

/-- A template without calls of known scripts keeps what compiling does not resolve. Its label shows
the marker whatever the fields hold exactly if one of these pieces is no number of a slot with a
plus. Of the unresolved fragments, rendering takes exactly the numbers with a plus for slots. -/
theorem flagged_iff (F : Type) [DecidableEq F] [TokenDomain F] (scripts : List String)
    (source : String) (r : Rounding) (u : Bool)
    (hcalls : ∀ inner, .fragment inner ∈ pieces source.toList → isCall scripts inner = false) :
    let label := (compile F scripts source r u).1
    (∀ p ∈ pieces source.toList, Unresolved F p → p ∈ pieces label.format.toList) ∧
      ((∀ (fields : Fields F) (results : List String),
          ∃ e, fill fields.slot? (label.spliced results) = .error e ∧
            label.render fields results =
              if u then Text.uppercase brokenText else brokenText) ↔
        ∃ p ∈ pieces source.toList, Unresolved F p ∧ ¬ SignedSlots p) ∧
      ∀ inner, Unresolved F (.fragment inner) →
        ((∃ fields : Fields F, (slotText? fields.slot? inner).isSome = true) ↔
          SignedSlots (.fragment inner)) := by
  intro label
  refine ⟨fun p hp hunresolved => ?_, ⟨fun h => ?_, ?_⟩, fun inner hunresolved => ⟨?_, ?_⟩⟩
  · exact mem_pieces_format_of_unresolved hp hunresolved
  · obtain ⟨e, he, -⟩ := h (Fields.filled F (maxUnsigned64 + 1)) []
    rw [Reading.spliced_compile hcalls] at he
    exact exists_flagged hcalls he
  · rintro ⟨p, hp, hflagged⟩ fields results
    have hformat : p ∈ pieces label.format.toList := mem_pieces_format_of_unresolved hp hflagged.1
    obtain ⟨e, he⟩ := (exists_error_iff fields.slot? _).2
      ⟨p, hformat, not_fillable_of_flagged hflagged _⟩
    rw [← Reading.spliced_compile hcalls results] at he
    exact ⟨e, he, render_of_error he⟩
  · rintro ⟨fields, hfields⟩
    obtain ⟨text, htext⟩ := Option.isSome_iff_exists.1 hfields
    by_contra hsigned
    exact (not_readsSlots_iff hunresolved.2).2 hsigned (readsSlots_of_slotText? htext)
  · intro hsigned
    refine ⟨Fields.filled F (maxUnsigned64 + 1), isSome_slotText? (fun n hn => ?_) hsigned.1⟩
    exact Fields.isSome_slot?_filled (Nat.lt_succ_of_le hn)

end Flagging

/-- A number with a plus beside a word that names nothing. -/
def flaggedSource : String := "\x7b+0\x7d \x7bgab\x7d"

theorem flagged_iff_sample :
    (∀ inner, .fragment inner ∈ pieces flaggedSource.toList → isCall ["team"] inner = false) ∧
      (.fragment "gab".toList ∈ pieces flaggedSource.toList ∧
        Unresolved StandingField (.fragment "gab".toList) ∧
        ¬ SignedSlots (.fragment "gab".toList)) ∧
      ∀ (fields : Fields StandingField) (results : List String),
        (compile StandingField ["team"] flaggedSource .full false).1.render fields results =
          "[invalid]" := by
  have hpieces : pieces flaggedSource.toList =
      [.fragment "+0".toList, .plain ' ', .fragment "gab".toList] := by decide +kernel
  have hcalls : ∀ inner, .fragment inner ∈ pieces flaggedSource.toList →
      isCall ["team"] inner = false := by
    intro inner hi
    simp only [hpieces, List.mem_cons, Piece.fragment.injEq, reduceCtorEq, false_or,
      List.not_mem_nil, or_false] at hi
    rcases hi with rfl | rfl
    · decide +kernel
    · decide +kernel
  have hmem : .fragment "gab".toList ∈ pieces flaggedSource.toList := by
    rw [hpieces]
    exact List.mem_cons_of_mem _ (List.mem_cons_of_mem _ List.mem_cons_self)
  have hunknown : IsUnknown StandingField (splitBar "gab".toList).1 :=
    isUnknown_iff.2 (by decide +kernel)
  have hunresolved : Unresolved StandingField (.fragment "gab".toList) :=
    ⟨by decide, .inl hunknown⟩
  have hsigned : ¬ SignedSlots (.fragment "gab".toList) :=
    fun h => absurd h.1.primary (by decide +kernel)
  obtain ⟨-, hflagged, -⟩ := flagged_iff StandingField ["team"] flaggedSource .full false hcalls
  refine ⟨hcalls, ⟨hmem, hunresolved, hsigned⟩, fun fields results => ?_⟩
  obtain ⟨e, -, hrender⟩ := hflagged.2 ⟨_, hmem, hunresolved, hsigned⟩ fields results
  exact hrender

/-- A number with a plus: compiling does not resolve it, and rendering shows the slot. -/
theorem signed_number_shown :
    let label := (compile StandingField [] "\x7b+0\x7d" .full false).1
    pieces "\x7b+0\x7d".toList = [.fragment "+0".toList] ∧
      NamesUnknown StandingField "+0".toList ∧ label.format = "\x7b+0\x7d" ∧
      label.render ((Fields.blank StandingField).set .fullName "J. Doe") [] = "J. Doe" := by
  intro label
  refine ⟨by decide +kernel, .inl (isUnknown_iff.2 ?_), by decide +kernel, by decide +kernel⟩
  decide +kernel

end Label

end RaceOverlay
