import RaceOverlay.Proofs.Kept
import RaceOverlay.Template.Render
import RaceOverlay.Token.Standing

/-!
# What compiling leaves in a format

A compiled format holds slot forms, recorded calls, and fragments of the template that were left for
the renderer to flag. These are meant to name something unknown. But a fallback that names neither a
field nor a slot keeps its fragment whatever stands before the bar, so an external reference can be
left as well, and with it a label that is broken as a whole.
-/
namespace RaceOverlay.Template

open Text (decimal maxUnsigned64 digits? isDigits)

section Parts

variable (F : Type) [DecidableEq F] [TokenDomain F]

/-- The name of a field, or the number of a slot. -/
def NamesSlot (cs : List Char) : Prop :=
  (∃ f : F, (TokenDomain.name f).toList = cs) ∨ ∃ n ≤ maxUnsigned64, digits? cs = some n

/-- Neither the name of a field nor the number of a slot nor an external reference. -/
def IsUnknown (cs : List Char) : Prop := ¬ NamesSlot F cs ∧ ¬ "external".toList <+: cs

/-- A part of the fragment is unknown; an empty fallback is none. -/
def NamesUnknown (inner : List Char) : Prop :=
  IsUnknown F (splitBar inner).1 ∨
    ∃ fallback ≠ [], (splitBar inner).2 = some fallback ∧ IsUnknown F fallback

/-- The fragment has a fallback that cannot be one. -/
def HasBadFallback (inner : List Char) : Prop :=
  ∃ fallback ≠ [], (splitBar inner).2 = some fallback ∧ ¬ NamesSlot F fallback

variable {F}

theorem ofName?_eq_none_iff {cs : List Char} :
    (TokenDomain.ofName? (String.ofList cs) : Option F) = none ↔
      ∀ f : F, (TokenDomain.name f).toList ≠ cs := by
  rw [Option.eq_none_iff_forall_ne_some]
  refine forall_congr' fun f => not_congr ?_
  rw [TokenDomain.ofName?_eq_some]
  constructor
  · intro h
    rw [h, String.toList_ofList]
  · intro h
    rw [← h, String.ofList_toList]

theorem not_external_of_isDigits {cs : List Char} (h : isDigits cs = true) :
    ¬ "external".toList <+: cs := by
  intro hp
  have hdigit := (Text.isDigits_iff.1 h).2 'e' (hp.subset (by decide))
  exact absurd hdigit (by decide)

/-- An external reference names a column or is malformed. -/
theorem externalPart_cases (F : Type) [DecidableEq F] [TokenDomain F] (cs : List Char) :
    externalPart F cs = .malformed ∨
      (TokenDomain.hasColumns F = true ∧
        ∃ digits n, cs = "external:".toList ++ digits ∧ Text.unsigned64? digits = some n ∧
          externalPart F cs = .column (TokenDomain.columnSlot F n)) := by
  unfold externalPart
  split
  · rename_i hcolumns
    split
    · rename_i n hn
      obtain ⟨digits, hp, hd⟩ := Option.bind_eq_some_iff.1 hn
      have hcs := List.isPrefixOf?_eq_some_iff_append_eq.1 hp
      exact .inr ⟨hcolumns, digits, n, hcs.symm, hd, rfl⟩
    · exact .inl rfl
  · exact .inl rfl

private theorem externalPart_ne (F : Type) [DecidableEq F] [TokenDomain F] (cs : List Char) :
    (∀ n, externalPart F cs ≠ .slot n) ∧ externalPart F cs ≠ .unknown := by
  rcases externalPart_cases F cs with h | ⟨-, digits, m, -, -, h⟩
  all_goals
    rw [h]
    simp

/-- What a part names, and what it is resolved to. -/
theorem part_cases (F : Type) [DecidableEq F] [TokenDomain F] (cs : List Char) :
    (NamesSlot F cs ∧ ∃ n, part F cs = .slot n) ∨
      (¬ NamesSlot F cs ∧ "external".toList <+: cs ∧ part F cs = externalPart F cs) ∨
      (IsUnknown F cs ∧ part F cs = .unknown) := by
  cases hname : (TokenDomain.ofName? (String.ofList cs) : Option F) with
  | some f =>
    refine .inl ⟨.inl ⟨f, ?_⟩, TokenDomain.slot f, by rw [part, hname]⟩
    rw [TokenDomain.ofName?_eq_some.1 hname, String.toList_ofList]
  | none =>
    have hfield := ofName?_eq_none_iff.1 hname
    cases hdigits : digits? cs with
    | some n =>
      have hpart : part F cs = if n ≤ maxUnsigned64 then .slot n else .unknown := by
        rw [part, hname, hdigits]
      have hall : isDigits cs = true := by
        by_contra hnot
        rw [Text.digits?_eq_none_iff.2 (by simpa using hnot)] at hdigits
        cases hdigits
      by_cases hn : n ≤ maxUnsigned64
      · rw [if_pos hn] at hpart
        exact .inl ⟨.inr ⟨n, hn, hdigits⟩, n, hpart⟩
      · rw [if_neg hn] at hpart
        refine .inr (.inr ⟨⟨?_, not_external_of_isDigits hall⟩, hpart⟩)
        rintro (⟨f, hf⟩ | ⟨m, hm, hdm⟩)
        · exact hfield f hf
        · rw [hdigits] at hdm
          obtain rfl := Option.some.inj hdm
          exact hn hm
    | none =>
      have hslot : ¬ NamesSlot F cs := by
        rintro (⟨f, hf⟩ | ⟨m, -, hdm⟩)
        · exact hfield f hf
        · rw [hdigits] at hdm
          cases hdm
      by_cases hexternal : "external".toList <+: cs
      · have hpart : part F cs = externalPart F cs := by
          rw [part, hname, hdigits, List.isPrefixOf_iff_prefix.2 hexternal]
          rfl
        exact .inr (.inl ⟨hslot, hexternal, hpart⟩)
      · have hprefix : "external".toList.isPrefixOf cs = false := by
          by_contra hnot
          exact hexternal (List.isPrefixOf_iff_prefix.1 (by simpa using hnot))
        refine .inr (.inr ⟨⟨hslot, hexternal⟩, ?_⟩)
        rw [part, hname, hdigits, hprefix]
        rfl

theorem namesSlot_iff {cs : List Char} : NamesSlot F cs ↔ ∃ n, part F cs = .slot n := by
  rcases part_cases F cs with ⟨hs, hp⟩ | ⟨hs, -, hp⟩ | ⟨hu, hp⟩
  · exact iff_of_true hs hp
  · refine iff_of_false hs fun ⟨n, hn⟩ => ?_
    rw [hp] at hn
    exact (externalPart_ne F cs).1 n hn
  · exact iff_of_false hu.1 fun ⟨n, hn⟩ => by rw [hp] at hn; cases hn

theorem column_le_of_part {cs : List Char} {n : Nat} (h : part F cs = .column n) :
    n ≤ maxUnsigned64 := by
  rcases part_cases F cs with ⟨-, m, hp⟩ | ⟨-, -, hp⟩ | ⟨-, hp⟩
  · rw [hp] at h
    cases h
  · rw [hp] at h
    rcases externalPart_cases F cs with he | ⟨-, digits, m, -, -, he⟩
    · rw [he] at h
      cases h
    · rw [he] at h
      cases h
      exact TokenDomain.columnSlot_le m
  · rw [hp] at h
    cases h

theorem isUnknown_iff {cs : List Char} : IsUnknown F cs ↔ part F cs = .unknown := by
  rcases part_cases F cs with ⟨hs, n, hp⟩ | ⟨-, he, hp⟩ | ⟨hu, hp⟩
  · refine iff_of_false (fun hu => hu.1 hs) fun hn => ?_
    rw [hp] at hn
    cases hn
  · refine iff_of_false (fun hu => hu.2 he) fun hn => ?_
    rw [hp] at hn
    exact (externalPart_ne F cs).2 hn
  · exact iff_of_true hu hp

end Parts

section Fragments

variable {F : Type} [DecidableEq F] [TokenDomain F]

/-- The word `external` has no bar, so it stands before the first bar of a fragment. -/
theorem external_prefix_iff {inner : List Char} :
    "external".toList <+: inner ↔ "external".toList <+: (splitBar inner).1 := by
  rcases splitBar_cases inner with ⟨-, hs⟩ | ⟨primary, fallback, -, rfl, hs⟩
  · rw [hs]
  · rw [hs]
    constructor
    · rintro ⟨rest, hrest⟩
      obtain ⟨v, hv, -⟩ := exists_append_of_append_eq (c := '|') (by decide) hrest
      exact ⟨v, hv.symm⟩
    · intro hp
      exact hp.trans (List.prefix_append _ _)

private theorem not_external_of_isUnknown {inner : List Char} (h : IsUnknown F (splitBar inner).1) :
    ¬ "external".toList <+: inner := by
  rw [external_prefix_iff]
  exact h.2

/-- Whatever its primary part is, a fragment with a bad fallback is left as it is. -/
theorem token_of_hasBadFallback {inner : List Char} (h : HasBadFallback F inner) :
    token F inner = .keep (.fragment inner) := by
  obtain ⟨fallback, hne, hs, hbad⟩ := h
  rw [namesSlot_iff, not_exists] at hbad
  rw [token_of_some (Prod.ext rfl hs) hne]
  cases hp : part F fallback with
  | slot n => exact absurd hp (hbad n)
  | column n => rfl
  | malformed => rfl
  | unknown => rfl

/-- Without a bad fallback, the primary part decides. -/
theorem token_of_not_hasBadFallback {inner : List Char} (h : ¬ HasBadFallback F inner) :
    ∃ fallback, IsFallback fallback ∧
      token F inner = resolved inner fallback (part F (splitBar inner).1) := by
  rcases splitBar_cases inner with ⟨-, hs⟩ | ⟨primary, fallback, -, -, hs⟩
  · refine ⟨none, .inl rfl, ?_⟩
    rw [token_of_none hs, hs]
  · by_cases hne : fallback = []
    · subst hne
      refine ⟨some [], .inr (.inl rfl), ?_⟩
      rw [token_of_empty hs, hs]
    · have hslot : NamesSlot F fallback := by
        by_contra hbad
        exact h ⟨fallback, hne, by rw [hs], hbad⟩
      obtain ⟨n, hn⟩ := namesSlot_iff.1 hslot
      refine ⟨some (decimal n), .inr (.inr ⟨n, slot_le_of_part hn, rfl⟩), ?_⟩
      rw [token_of_some hs hne, hn, hs]

/-- A fragment is left as it is for one of two reasons. -/
theorem slotForm_or_left {inner s : List Char} (h : token F inner = .keep (.fragment s)) :
    SlotForm s ∨ (s = inner ∧ (IsUnknown F (splitBar inner).1 ∨ HasBadFallback F inner)) := by
  by_cases hbad : HasBadFallback F inner
  · rw [token_of_hasBadFallback hbad] at h
    cases h
    exact .inr ⟨rfl, .inr hbad⟩
  · obtain ⟨fallback, hf, ht⟩ := token_of_not_hasBadFallback hbad
    rw [ht] at h
    by_cases hunknown : IsUnknown F (splitBar inner).1
    · rw [isUnknown_iff.1 hunknown] at h
      cases h
      exact .inr ⟨rfl, .inl hunknown⟩
    · have hknown : part F (splitBar inner).1 ≠ .unknown := fun he =>
        hunknown (isUnknown_iff.2 he)
      rcases resolved_of_known hf (fun _ => slot_le_of_part) hknown with ⟨e, he⟩ | ⟨s', hs', hk⟩
      · rw [he] at h
        cases h
      · rw [hk] at h
        cases h
        exact .inl hs'

namespace SlotForm

theorem not_external {s : List Char} (h : SlotForm s) : ¬ "external".toList <+: s := by
  intro hp
  exact h.not_mem (c := 'e') (by decide) (by decide) (hp.subset (by decide))

theorem not_hasBadFallback {s : List Char} (h : SlotForm s) : ¬ HasBadFallback F s := by
  have hbar : ∀ n, '|' ∉ decimal n := Text.not_mem_decimal (by decide)
  rintro ⟨fallback, hne, hs, hbad⟩
  cases h with
  | @slot n hn =>
    rw [splitBar_of_not_mem (hbar n)] at hs
    cases hs
  | orEmpty n =>
    rw [splitBar_append (hbar n)] at hs
    cases hs
    exact hne rfl
  | @orElse n m hm =>
    rw [splitBar_append (hbar n)] at hs
    cases hs
    exact hbad (.inr ⟨m, hm, Text.digits?_decimal m⟩)

end SlotForm

end Fragments

section Formats

variable {F : Type} [DecidableEq F] [TokenDomain F] {scripts : List String}

theorem fragment_mem_pieces_formatOf {cs inner : List Char} :
    .fragment inner ∈ pieces (formatOf F scripts cs) ↔
      ∃ old, .fragment old ∈ pieces cs ∧
        (fragment F scripts old).piece? = some (.fragment inner) := by
  rw [pieces_formatOf, kept, List.mem_filterMap]
  constructor
  · rintro ⟨p, hp, ho⟩
    cases p with
    | fragment old => exact ⟨old, hp, ho⟩
    | plain c => cases ho
    | brace => cases ho
    | unclosed rest => cases ho
  · rintro ⟨old, hp, ho⟩
    exact ⟨.fragment old, hp, ho⟩

theorem script_prefix_inner (c : Call) : "script".toList <+: c.inner := by
  have hword : "script".toList <+: "script:".toList := by decide +kernel
  have hinner : c.inner = "script:".toList ++ (c.script.toList ++ ([':'] ++ c.method.toList)) := by
    unfold Call.inner Call.opening
    simp only [List.append_assoc]
  simp only [hinner]
  exact hword.trans (List.prefix_append _ _)

theorem fragment_eq_token {inner : List Char} (h : ¬ "script".toList <+: inner) :
    fragment F scripts inner = token F inner := by
  apply fragment_of_not_script
  rw [← Bool.not_eq_true, List.isPrefixOf_iff_prefix]
  exact h

/-- A fragment of a format is a call that was one before, or what is left of another fragment. -/
theorem call_or_token {old inner : List Char}
    (h : (fragment F scripts old).piece? = some (.fragment inner)) :
    (old = inner ∧ ∃ c, c.inner = inner ∧ fragment F scripts old = .call c) ∨
      (¬ "script".toList <+: old ∧ token F old = .keep (.fragment inner)) := by
  by_cases hscript : "script".toList <+: old
  · rw [fragment, if_pos (List.isPrefixOf_iff_prefix.2 hscript)] at h ⊢
    cases hc : findCall? scripts old with
    | none =>
      rw [hc] at h
      cases h
    | some c =>
      rw [hc] at h
      cases h
      have hinner := (findCall?_eq_some hc).1
      exact .inl ⟨hinner.symm, c, rfl, rfl⟩
  · refine .inr ⟨hscript, ?_⟩
    rw [fragment_eq_token hscript] at h
    cases ht : token F old with
    | keep piece =>
      rw [ht] at h
      cases h
      rfl
    | call c =>
      rcases token_cases F old with hk | ⟨e, hk⟩ | ⟨s, -, hk⟩
      all_goals
        rw [hk] at ht
        cases ht
    | drop e =>
      rw [ht] at h
      cases h

end Formats

end RaceOverlay.Template

namespace RaceOverlay.Label

open Template

section Compiled

variable (F : Type) [DecidableEq F] [TokenDomain F]

/-- Nothing unresolved is left in the format of a label: no external reference, no call but the
recorded ones, and otherwise slots and fragments of the template that name something unknown. -/
structure NothingUnresolved (label : Label) : Prop where
  external : ∀ inner, .fragment inner ∈ pieces label.format.toList →
    ¬ "external".toList <+: inner
  script : ∀ inner, .fragment inner ∈ pieces label.format.toList → "script".toList <+: inner →
    ∃ c ∈ label.calls, c.placeholder = (Piece.fragment inner).source
  other : ∀ inner, .fragment inner ∈ pieces label.format.toList → ¬ "script".toList <+: inner →
    SlotForm inner ∨ (.fragment inner ∈ pieces label.source.toList ∧ NamesUnknown F inner)

variable {F} {scripts : List String} {source : String} {r : Rounding} {u : Bool}
variable {inner : List Char}

theorem mem_calls {old : List Char} {c : Call} (hold : .fragment old ∈ pieces source.toList)
    (hc : fragment F scripts old = .call c) : c ∈ (compile F scripts source r u).1.calls := by
  rw [calls_compile, List.mem_eraseDups, List.mem_filterMap]
  exact ⟨.call c, List.mem_map.2 ⟨_, hold, hc⟩, rfl⟩

theorem placeholder_of_script
    (h : .fragment inner ∈ pieces (compile F scripts source r u).1.format.toList)
    (hscript : "script".toList <+: inner) :
    ∃ c ∈ (compile F scripts source r u).1.calls,
      c.placeholder = (Piece.fragment inner).source := by
  rw [format_compile, String.toList_ofList, fragment_mem_pieces_formatOf] at h
  obtain ⟨old, hold, hp⟩ := h
  rcases call_or_token hp with ⟨rfl, c, hc, ho⟩ | ⟨hnot, ht⟩
  · exact ⟨c, mem_calls hold ho, by rw [Call.placeholder, hc]⟩
  · exfalso
    rcases slotForm_or_left ht with hs | ⟨rfl, -⟩
    · have hfalse := hs.not_script
      rw [List.isPrefixOf_iff_prefix.2 hscript] at hfalse
      cases hfalse
    · exact hnot hscript

theorem slotForm_or_source
    (h : .fragment inner ∈ pieces (compile F scripts source r u).1.format.toList)
    (hscript : ¬ "script".toList <+: inner) :
    SlotForm inner ∨ (.fragment inner ∈ pieces source.toList ∧
      (IsUnknown F (splitBar inner).1 ∨ HasBadFallback F inner)) := by
  rw [format_compile, String.toList_ofList, fragment_mem_pieces_formatOf] at h
  obtain ⟨old, hold, hp⟩ := h
  rcases call_or_token hp with ⟨rfl, c, hc, ho⟩ | ⟨-, ht⟩
  · exfalso
    apply hscript
    rw [← hc]
    exact script_prefix_inner c
  · rcases slotForm_or_left ht with hs | ⟨rfl, hleft⟩
    · exact .inl hs
    · exact .inr ⟨hold, hleft⟩

theorem mem_format_of_hasBadFallback (hmem : .fragment inner ∈ pieces source.toList)
    (hscript : ¬ "script".toList <+: inner) (hbad : HasBadFallback F inner) :
    .fragment inner ∈ pieces (compile F scripts source r u).1.format.toList := by
  rw [format_compile, String.toList_ofList, fragment_mem_pieces_formatOf]
  refine ⟨inner, hmem, ?_⟩
  rw [fragment_eq_token hscript, token_of_hasBadFallback hbad]
  rfl

/-- Compiling leaves only the calls that it recorded, slot forms, and fragments of the template that
have an unknown primary part or a bad fallback. Nothing unresolved is left exactly if each bad
fallback belongs to a fragment that is no external reference and names something unknown. -/
theorem nothingUnresolved_compile_iff (F : Type) [DecidableEq F] [TokenDomain F]
    (scripts : List String) (source : String) (r : Rounding) (u : Bool) :
    let label := (compile F scripts source r u).1
    (∀ inner, .fragment inner ∈ pieces label.format.toList →
      ("script".toList <+: inner → ∃ c ∈ label.calls,
        c.placeholder = (Piece.fragment inner).source) ∧
      (¬ "script".toList <+: inner → SlotForm inner ∨
        (.fragment inner ∈ pieces source.toList ∧
          (IsUnknown F (splitBar inner).1 ∨ HasBadFallback F inner)))) ∧
    (NothingUnresolved F label ↔
      ∀ inner, .fragment inner ∈ pieces source.toList → ¬ "script".toList <+: inner →
        HasBadFallback F inner → ¬ "external".toList <+: inner ∧ NamesUnknown F inner) := by
  intro label
  refine ⟨fun inner h => ⟨placeholder_of_script h, slotForm_or_source h⟩, ?_, ?_⟩
  · intro hresolved inner hmem hscript hbad
    have hformat : .fragment inner ∈ pieces label.format.toList :=
      mem_format_of_hasBadFallback hmem hscript hbad
    refine ⟨hresolved.external inner hformat, ?_⟩
    rcases hresolved.other inner hformat hscript with hs | ⟨-, hnames⟩
    · exact absurd hbad hs.not_hasBadFallback
    · exact hnames
  · intro hcond
    constructor
    case external =>
      intro inner h hexternal
      have hscript : ¬ "script".toList <+: inner := by
        rintro hscript
        exact absurd (List.prefix_of_prefix_length_le hscript hexternal (by decide)) (by decide)
      rcases slotForm_or_source h hscript with hs | ⟨hmem, hunknown | hbad⟩
      · exact hs.not_external hexternal
      · exact not_external_of_isUnknown hunknown hexternal
      · exact (hcond inner hmem hscript hbad).1 hexternal
    case script => exact fun inner h => placeholder_of_script h
    case other =>
      intro inner h hscript
      rcases slotForm_or_source h hscript with hs | ⟨hmem, hunknown | hbad⟩
      · exact .inl hs
      · exact .inr ⟨hmem, .inl hunknown⟩
      · exact .inr ⟨hmem, (hcond inner hmem hscript hbad).2⟩

end Compiled

/-- An external reference to no column, with a fallback to no column: it is left in the format, and
the label is broken. -/
theorem external_left_in_format :
    let label := (compile StandingField [] "a\x7bexternal:x|external:y\x7db" .full false).1
    label.format = "a\x7bexternal:x|external:y\x7db" ∧
      ¬ NothingUnresolved StandingField label ∧
      label.render (Fields.blank StandingField) [] = brokenText := by
  intro label
  have hformat : label.format = "a\x7bexternal:x|external:y\x7db" := by decide +kernel
  refine ⟨hformat, fun hresolved => ?_, by decide +kernel⟩
  refine hresolved.external "external:x|external:y".toList ?_ (by decide)
  rw [hformat]
  decide +kernel

end RaceOverlay.Label
