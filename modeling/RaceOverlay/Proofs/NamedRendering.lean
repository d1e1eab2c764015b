import RaceOverlay.Proofs.Reading

/-!
# Compiled labels show what their templates name

Fragment by fragment, the slots of the compiled form hold the text that the parts of the fragment
name, where a column is what its slot holds. So the rendered label is the direct reading of the
template, less what compiling cuts out.
-/
namespace RaceOverlay.Reading

open Template (part resolved splitBar splitBar_cases token outcome Outcome)
open Format (slotText?)
open Text (unsigned64?)

section Fragments

variable {F : Type} [DecidableEq F] [TokenDomain F] (fields : Fields F)
variable (column? : Nat → Option String) {inner primary fallback s : List Char}

end Fragments

section Cuts

variable {F : Type} [DecidableEq F] [TokenDomain F] {scripts : List String}

theorem findCall?_eq_none_iff {inner : List Char} :
    Template.findCall? scripts inner = none ↔ isCall scripts inner = false := by
  rw [Template.findCall?, List.findSome?_eq_none_iff, isCall, List.any_eq_false]
  refine forall₂_congr fun script _ => ?_
  rw [Option.map_eq_none_iff, ← List.isSome_isPrefixOf?_eq_isPrefixOf,
    Option.not_isSome_iff_eq_none]

end Cuts

section Labels

variable {F : Type} [DecidableEq F] [TokenDomain F] {scripts : List String}

theorem calls_eq_nil {cs : List Char}
    (hcalls : ∀ inner, .fragment inner ∈ pieces cs → isCall scripts inner = false) :
    (Template.outcomes F scripts cs).filterMap Outcome.call? = [] := by
  rw [Template.outcomes, List.filterMap_map, List.filterMap_eq_nil_iff]
  intro p hp
  rw [Function.comp_apply, Option.eq_none_iff_forall_ne_some]
  intro c hc
  obtain ⟨rfl, hf⟩ := Template.eq_fragment_of_call? hc
  rw [findCall?_eq_none_iff.2 (hcalls c.inner hp)] at hf
  cases hf

/-- Without calls there are no results to splice in. -/
theorem spliced_compile {source : String} {r : Rounding} {u : Bool}
    (hcalls : ∀ inner, .fragment inner ∈ pieces source.toList → isCall scripts inner = false)
    (results : List String) :
    (Label.compile F scripts source r u).1.spliced results =
      (Label.compile F scripts source r u).1.format.toList := by
  have hnil : (Label.compile F scripts source r u).1.calls = [] := by
    rw [Label.calls_compile, calls_eq_nil hcalls]
    rfl
  rw [Label.spliced, hnil]
  rfl

end Labels

end RaceOverlay.Reading
