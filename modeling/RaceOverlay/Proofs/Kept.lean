import Mathlib.Data.List.Basic
import RaceOverlay.Proofs.SlotForms

/-!
# What compiling keeps

The pieces of a compiled format are the kept pieces of its template, in order. Each of them compiles
to what it came from, so compiling the format again changes nothing.
-/
namespace RaceOverlay

namespace Template

/-- The piece of the format that an outcome stands for. -/
def Outcome.piece? : Outcome → Option Piece
  | .keep piece => some piece
  | .call c => some (.fragment c.inner)
  | .drop _ => none

theorem Outcome.source_eq (o : Outcome) : o.source = (o.piece?.map Piece.source).getD [] := by
  cases o <;> rfl

theorem findCall?_eq_some {scripts : List String} {inner : List Char} {c : Call}
    (h : findCall? scripts inner = some c) :
    c.inner = inner ∧ c.script ∈ scripts := by
  obtain ⟨script, hmem, hc⟩ := List.exists_of_findSome?_eq_some h
  obtain ⟨method, hp, rfl⟩ := Option.map_eq_some_iff.1 hc
  have hi := List.isPrefixOf?_eq_some_iff_append_eq.1 hp
  exact ⟨by simpa [Call.inner] using hi, hmem⟩

variable {F : Type} [DecidableEq F] [TokenDomain F] {scripts : List String}

theorem fragment_of_not_script {inner : List Char}
    (h : "script".toList.isPrefixOf inner = false) :
    fragment F scripts inner = token F inner := by
  rw [fragment, h]
  rfl

/-- A fragment is called, dropped, left alone, or brought to a slot form. -/
theorem fragment_cases (F : Type) [DecidableEq F] [TokenDomain F] (scripts : List String)
    (inner : List Char) :
    (∃ c, findCall? scripts inner = some c ∧ fragment F scripts inner = .call c) ∨
      (∃ e, fragment F scripts inner = .drop e) ∨
      fragment F scripts inner = .keep (.fragment inner) ∨
      ∃ s, SlotForm s ∧ fragment F scripts inner = .keep (.fragment s) := by
  cases hp : "script".toList.isPrefixOf inner with
  | true =>
    rw [fragment, if_pos hp]
    cases hc : findCall? scripts inner with
    | some c => exact .inl ⟨c, rfl, rfl⟩
    | none => exact .inr (.inl ⟨_, rfl⟩)
  | false =>
    rw [fragment_of_not_script hp]
    rcases token_cases F inner with h | h | h
    · exact .inr (.inr (.inl h))
    · exact .inr (.inl h)
    · exact .inr (.inr (.inr h))

/-- A recorded call is the text of its fragment. -/
theorem eq_fragment_of_call? {p : Piece} {c : Call} (h : (outcome F scripts p).call? = some c) :
    p = .fragment c.inner ∧ findCall? scripts c.inner = some c := by
  cases p with
  | plain d => cases h
  | brace => cases h
  | unclosed rest => cases h
  | fragment inner =>
    rw [outcome] at h
    rcases fragment_cases F scripts inner with ⟨c', hf, hc⟩ | ⟨e, he⟩ | hk | ⟨s, -, hk⟩
    · rw [hc] at h
      cases h
      obtain rfl := (findCall?_eq_some hf).1
      exact ⟨rfl, hf⟩
    · rw [he] at h
      cases h
    · rw [hk] at h
      cases h
    · rw [hk] at h
      cases h

private theorem fragment_of_slotForm {s : List Char} (h : SlotForm s) :
    fragment F scripts s = .keep (.fragment s) := by
  rw [fragment_of_not_script h.not_script, token_of_slotForm h]

/-- A kept piece compiles to what it came from. -/
theorem outcome_of_piece? {p q : Piece} (h : (outcome F scripts p).piece? = some q) :
    outcome F scripts q = outcome F scripts p := by
  cases p with
  | plain c =>
    cases h
    rfl
  | brace =>
    cases h
    rfl
  | unclosed rest =>
    cases h
    rfl
  | fragment inner =>
    rw [outcome] at h ⊢
    rcases fragment_cases F scripts inner with ⟨c, hf, hc⟩ | ⟨e, he⟩ | hk | ⟨s, hs, hk⟩
    · obtain rfl := (findCall?_eq_some hf).1
      rw [hc] at h ⊢
      cases h
      exact hc
    · rw [he] at h
      cases h
    · rw [hk] at h ⊢
      cases h
      exact hk
    · rw [hk] at h ⊢
      cases h
      exact fragment_of_slotForm hs

theorem isClosed_of_piece? {p q : Piece} (hp : p.IsClosed)
    (h : (outcome F scripts p).piece? = some q) : q.IsClosed := by
  cases p with
  | plain c =>
    cases h
    exact hp
  | brace =>
    cases h
    exact hp
  | unclosed rest => exact hp.elim
  | fragment inner =>
    rw [outcome] at h
    rcases fragment_cases F scripts inner with ⟨c, hf, hc⟩ | ⟨e, he⟩ | hk | ⟨s, hs, hk⟩
    · obtain rfl := (findCall?_eq_some hf).1
      rw [hc] at h
      cases h
      exact hp
    · rw [he] at h
      cases h
    · rw [hk] at h
      cases h
      exact hp
    · rw [hk] at h
      cases h
      exact hs.isInner

/-- The pieces of a template that are kept, in their compiled form. -/
def kept (F : Type) [DecidableEq F] [TokenDomain F] (scripts : List String) (cs : List Char) :
    List Piece :=
  (pieces cs).filterMap fun p => (outcome F scripts p).piece?

theorem wellFormed_kept (cs : List Char) : Piece.WellFormed (kept F scripts cs) :=
  (wellFormed_pieces cs).filterMap _ (fun _ _ _ hp hq => isClosed_of_piece? hp hq) fun _ => rfl

theorem flatMap_source_outcomes (cs : List Char) :
    (outcomes F scripts cs).flatMap Outcome.source =
      (kept F scripts cs).flatMap Piece.source := by
  rw [outcomes, kept]
  induction pieces cs with
  | nil => rfl
  | cons p ps ih =>
    rw [List.map_cons, List.flatMap_cons, ih, Outcome.source_eq]
    cases hq : (outcome F scripts p).piece? with
    | none => simp only [List.filterMap_cons, hq]; rfl
    | some q => simp only [List.filterMap_cons, hq]; rfl

/-- The compiled format of a text. -/
def formatOf (F : Type) [DecidableEq F] [TokenDomain F] (scripts : List String)
    (cs : List Char) : List Char :=
  (outcomes F scripts cs).flatMap Outcome.source

theorem pieces_formatOf (cs : List Char) :
    pieces (formatOf F scripts cs) = kept F scripts cs := by
  rw [formatOf, flatMap_source_outcomes, pieces_flatMap_source (wellFormed_kept cs)]

/-- Compiling a format again has the outcomes of the first time, without the drops. -/
theorem outcomes_formatOf (cs : List Char) :
    outcomes F scripts (formatOf F scripts cs) =
      (outcomes F scripts cs).filter fun o => o.piece?.isSome := by
  rw [outcomes, pieces_formatOf, kept, outcomes]
  induction pieces cs with
  | nil => rfl
  | cons p ps ih =>
    rw [List.map_cons]
    cases hq : (outcome F scripts p).piece? with
    | none =>
      rw [List.filter_cons_of_neg (by simp [hq]), ← ih]
      simp only [List.filterMap_cons, hq]
    | some q =>
      rw [List.filter_cons_of_pos (by simp [hq]), ← ih]
      simp only [List.filterMap_cons, hq, List.map_cons, outcome_of_piece? hq]

private theorem flatMap_source_filter (os : List Outcome) :
    (os.filter fun o => o.piece?.isSome).flatMap Outcome.source = os.flatMap Outcome.source := by
  induction os with
  | nil => rfl
  | cons o os ih => cases o <;> simpa [Outcome.piece?, Outcome.source] using ih

private theorem filterMap_call?_filter (os : List Outcome) :
    (os.filter fun o => o.piece?.isSome).filterMap Outcome.call? =
      os.filterMap Outcome.call? := by
  rw [List.filterMap_filter]
  congr 1
  funext o
  cases o <;> rfl

end Template

namespace Label

variable (F : Type) [DecidableEq F] [TokenDomain F]

theorem format_compile (scripts : List String) (source : String) (r : Rounding) (u : Bool) :
    (compile F scripts source r u).1.format =
      String.ofList (Template.formatOf F scripts source.toList) := rfl

theorem calls_compile (scripts : List String) (source : String) (r : Rounding) (u : Bool) :
    (compile F scripts source r u).1.calls =
      ((Template.outcomes F scripts source.toList).filterMap Template.Outcome.call?).eraseDups :=
  rfl

theorem events_compile (scripts : List String) (source : String) (r : Rounding) (u : Bool) :
    (compile F scripts source r u).2 =
      (Template.outcomes F scripts source.toList).filterMap Template.Outcome.event? := rfl

variable {F} in
/-- A listed call is a fragment of the template, and it is the call that this fragment makes. -/
theorem of_mem_calls {scripts : List String} {source : String} {r : Rounding} {u : Bool} {c : Call}
    (h : c ∈ (compile F scripts source r u).1.calls) :
    .fragment c.inner ∈ pieces source.toList ∧ Template.findCall? scripts c.inner = some c := by
  rw [calls_compile, List.mem_eraseDups] at h
  obtain ⟨o, ho, hc⟩ := List.mem_filterMap.1 h
  obtain ⟨p, hp, rfl⟩ := List.mem_map.1 ho
  obtain ⟨rfl, hfind⟩ := Template.eq_fragment_of_call? hc
  exact ⟨hp, hfind⟩

/-- Compiling a compiled format again gives the same format and the same calls in the same order. It
drops no fragment and reports nothing. -/
theorem compile_format_again (scripts : List String) (source : String) (r r' : Rounding)
    (u u' : Bool) :
    let first := (compile F scripts source r u).1
    let again := compile F scripts first.format r' u'
    again.1.format = first.format ∧ again.1.calls = first.calls ∧ again.2 = [] ∧
      ∀ o ∈ Template.outcomes F scripts first.format.toList, ∀ e, o ≠ .drop e := by
  intro first again
  have ho : Template.outcomes F scripts first.format.toList =
      (Template.outcomes F scripts source.toList).filter fun o => o.piece?.isSome := by
    rw [format_compile, String.toList_ofList, Template.outcomes_formatOf]
  have hdrop : ∀ o ∈ Template.outcomes F scripts first.format.toList, ∀ e, o ≠ .drop e := by
    intro o hmem e he
    rw [ho] at hmem
    have hs := (List.mem_filter.1 hmem).2
    rw [he] at hs
    cases hs
  refine ⟨?_, ?_, ?_, hdrop⟩
  · rw [format_compile F scripts first.format, Template.formatOf, ho,
      Template.flatMap_source_filter, format_compile, Template.formatOf]
  · rw [calls_compile F scripts first.format, ho, Template.filterMap_call?_filter, calls_compile]
  · rw [events_compile, List.filterMap_eq_nil_iff]
    intro o hmem
    cases o with
    | keep piece => rfl
    | call c => rfl
    | drop e => exact absurd rfl (hdrop _ hmem e)

end Label

end RaceOverlay
