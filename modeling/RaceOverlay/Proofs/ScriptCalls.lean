import Mathlib.Data.List.Induction
import RaceOverlay.Proofs.CompiledFragments
import RaceOverlay.Proofs.NamedRendering

/-!
# The script calls of a template

A fragment that starts like a script call is told by its text alone: it calls the first script in
the list whose opening it starts with, and if there is none, it is no call and goes away. Names may
be prefixes of one another and may hold colons, so the list decides where a name ends.
-/
namespace RaceOverlay

section FirstAppearance

variable {α β : Type} [DecidableEq α] [DecidableEq β]

private theorem eraseDups_concat (xs : List α) (x : α) :
    (xs ++ [x]).eraseDups = if x ∈ xs then xs.eraseDups else xs.eraseDups ++ [x] := by
  rw [List.eraseDups_append]
  by_cases hx : x ∈ xs
  · simp [List.removeAll, hx]
  · simp [List.removeAll, hx, List.eraseDups_cons]

/-- What is read off the elements of a list stands in the order in which the elements first appear.
The induction is from the right: an element that is new stands behind all the others. -/
private theorem pairwise_idxOf_eraseDups {g : α → Option β} {f : β → α}
    (h : ∀ a b, g a = some b → f b = a) (xs : List α) :
    (xs.filterMap g).eraseDups.Pairwise fun b c => xs.idxOf (f b) < xs.idxOf (f c) := by
  induction xs using List.reverseRecOn with
  | nil => exact .nil
  | append_singleton xs x ih =>
    have hmem : ∀ b ∈ (xs.filterMap g).eraseDups, f b ∈ xs := by
      intro b hb
      obtain ⟨a, ha, hg⟩ := List.mem_filterMap.1 (List.mem_eraseDups.1 hb)
      rwa [h a b hg]
    have hsame : ∀ b ∈ (xs.filterMap g).eraseDups,
        (xs ++ [x]).idxOf (f b) = xs.idxOf (f b) := fun b hb =>
      List.idxOf_append_of_mem (hmem b hb)
    have hold : (xs.filterMap g).eraseDups.Pairwise fun b c =>
        (xs ++ [x]).idxOf (f b) < (xs ++ [x]).idxOf (f c) := by
      apply ih.imp_of_mem
      intro b c hb hc hlt
      rwa [hsame b hb, hsame c hc]
    rw [List.filterMap_append]
    cases hg : g x with
    | none =>
      rw [List.filterMap_cons_none hg, List.filterMap_nil, List.append_nil]
      exact hold
    | some b =>
      rw [List.filterMap_cons_some hg, List.filterMap_nil, eraseDups_concat]
      split
      · exact hold
      · rename_i hnew
        have hx : x ∉ xs := fun hx => hnew (List.mem_filterMap.2 ⟨x, hx, hg⟩)
        refine List.pairwise_append.2 ⟨hold, List.pairwise_singleton _ _, ?_⟩
        intro c hc d hd
        obtain rfl := List.mem_singleton.1 hd
        rw [hsame c hc, h x d hg, List.idxOf_append_of_notMem hx]
        have hlt := List.idxOf_lt_length_of_mem (hmem c hc)
        omega

end FirstAppearance

/-- Of the scripts whose opening the fragment starts with, the first one is called, and the rest of
the fragment is the method. -/
structure Call.IsMadeBy (scripts : List String) (inner : List Char) (c : Call) : Prop where
  text : c.inner = inner
  first : ∃ before after, scripts = before ++ c.script :: after ∧
    ∀ name ∈ before, ¬ Call.opening name <+: inner

namespace Template

open Reading (isCall)

/-- The text of a fragment that starts like a script call. -/
def scriptText? : Piece → Option (List Char)
  | .fragment inner => if "script".toList.isPrefixOf inner then some inner else none
  | _ => none

def scriptTexts (cs : List Char) : List (List Char) := (pieces cs).filterMap scriptText?

/-- The template without the script fragments that call no known script. -/
def withoutUnknown (scripts : List String) (cs : List Char) : List Char :=
  ((pieces cs).filter fun p => (scriptText? p).all (isCall scripts)).flatMap Piece.source

variable {scripts : List String}

private theorem isPrefixOf?_eq_none_iff {xs ys : List Char} :
    xs.isPrefixOf? ys = none ↔ ¬ xs <+: ys := by
  rw [← List.isPrefixOf_iff_prefix, ← List.isSome_isPrefixOf?_eq_isPrefixOf,
    Option.not_isSome_iff_eq_none]

theorem findCall?_eq_some_iff {inner : List Char} {c : Call} :
    findCall? scripts inner = some c ↔ c.IsMadeBy scripts inner := by
  rw [findCall?, List.findSome?_eq_some_iff]
  constructor
  · rintro ⟨before, script, after, rfl, hc, hbefore⟩
    obtain ⟨method, hp, rfl⟩ := Option.map_eq_some_iff.1 hc
    constructor
    case text =>
      rw [Call.inner, String.toList_ofList]
      exact List.isPrefixOf?_eq_some_iff_append_eq.1 hp
    case first =>
      refine ⟨before, after, rfl, fun name hname => ?_⟩
      exact isPrefixOf?_eq_none_iff.1 (Option.map_eq_none_iff.1 (hbefore name hname))
  · rintro ⟨rfl, before, after, rfl, hbefore⟩
    refine ⟨before, c.script, after, rfl, ?_, fun name hname => ?_⟩
    · have hp : (Call.opening c.script).isPrefixOf? c.inner = some c.method.toList :=
        List.isPrefixOf?_eq_some_iff_append_eq.2 rfl
      rw [hp, Option.map_some, String.ofList_toList]
    · rw [Option.map_eq_none_iff, isPrefixOf?_eq_none_iff]
      exact hbefore name hname

/-- The list decides which of two names is meant. -/
example :
    findCall? ["a", "a:b"] "script:a:b:c".toList = some ⟨"a", "b:c"⟩ ∧
      findCall? ["a:b", "a"] "script:a:b:c".toList = some ⟨"a:b", "c"⟩ := by
  decide +kernel

section Pieces

variable {F : Type} [DecidableEq F] [TokenDomain F]

theorem scriptText?_of_script {inner : List Char} (h : "script".toList.isPrefixOf inner = true) :
    scriptText? (.fragment inner) = some inner := if_pos h

theorem scriptText?_of_not_script {inner : List Char}
    (h : "script".toList.isPrefixOf inner = false) : scriptText? (.fragment inner) = none := by
  rw [scriptText?, h]
  rfl

theorem outcome_of_unknown {p : Piece} {inner : List Char} (hp : scriptText? p = some inner)
    (h : isCall scripts inner = false) :
    outcome F scripts p = .drop (.callRemoved (String.ofList inner)) := by
  cases p with
  | plain c => cases hp
  | brace => cases hp
  | unclosed rest => cases hp
  | fragment text =>
    obtain ⟨hscript, htext⟩ := Option.ite_none_right_eq_some.1 hp
    obtain rfl := Option.some.inj htext
    rw [outcome, fragment, if_pos hscript, Reading.findCall?_eq_none_iff.2 h]

/-- Of other fragments, only external references are dropped. -/
theorem eq_of_token_drop {inner : List Char} {e : Event} (h : token F inner = .drop e) :
    e = .referenceRemoved (String.ofList inner) := by
  have hresolved : ∀ fallback p, resolved inner fallback p = .drop e →
      e = .referenceRemoved (String.ofList inner) := by
    intro fallback p hd
    unfold resolved at hd
    split at hd
    · split at hd <;> cases hd
    · cases hd
    · split at hd <;> cases hd
      rfl
    · cases hd
  unfold token at h
  split at h
  · exact hresolved _ _ h
  · exact hresolved _ _ h
  · split at h
    · exact hresolved _ _ h
    · cases h

/-- What compiling does to one piece: a script fragment stays exactly if it is a call, and if not,
this is what is warned of. No other fragment becomes a script fragment. -/
theorem outcome_scriptText? (p : Piece) :
    (outcome F scripts p).piece?.bind scriptText? = (scriptText? p).filter (isCall scripts) ∧
      (outcome F scripts p).event?.filter (·.level = .warn) =
        ((scriptText? p).filter fun inner => !isCall scripts inner).map fun inner =>
          .callRemoved (String.ofList inner) := by
  cases p with
  | plain c => exact ⟨rfl, rfl⟩
  | brace => exact ⟨rfl, rfl⟩
  | unclosed rest => exact ⟨rfl, rfl⟩
  | fragment inner =>
    rw [outcome]
    cases hp : "script".toList.isPrefixOf inner with
    | true =>
      have htext := scriptText?_of_script hp
      rw [htext]
      cases hcall : isCall scripts inner with
      | true =>
        have hsome : findCall? scripts inner ≠ none := by
          intro hnone
          rw [Reading.findCall?_eq_none_iff.1 hnone] at hcall
          cases hcall
        obtain ⟨c, hc⟩ := Option.ne_none_iff_exists'.1 hsome
        rw [Option.filter_some_pos hcall, Option.filter_some_neg (by simp [hcall]), fragment,
          if_pos hp, hc]
        obtain rfl := (findCall?_eq_some hc).1
        exact ⟨htext, rfl⟩
      | false =>
        have hdrop : fragment F scripts inner = .drop (.callRemoved (String.ofList inner)) :=
          outcome_of_unknown htext hcall
        rw [Option.filter_some_neg (by simp [hcall]), Option.filter_some_pos (by simp [hcall]),
          hdrop]
        exact ⟨rfl, rfl⟩
    | false =>
      rw [scriptText?_of_not_script hp, fragment_of_not_script hp]
      rcases token_cases F inner with hk | ⟨e, he⟩ | ⟨s, hs, hk⟩
      · rw [hk]
        exact ⟨scriptText?_of_not_script hp, rfl⟩
      · rw [he]
        obtain rfl := eq_of_token_drop he
        exact ⟨rfl, rfl⟩
      · rw [hk]
        exact ⟨scriptText?_of_not_script hs.not_script, rfl⟩

variable (cs : List Char)

theorem scriptTexts_formatOf :
    scriptTexts (formatOf F scripts cs) = (scriptTexts cs).filter (isCall scripts) := by
  rw [scriptTexts, pieces_formatOf, kept, List.filterMap_filterMap, scriptTexts,
    List.filter_filterMap]
  exact List.filterMap_congr fun p _ => (outcome_scriptText? p).1

theorem warnings_outcomes :
    ((outcomes F scripts cs).filterMap Outcome.event?).filter (·.level = .warn) =
      ((scriptTexts cs).filter fun inner => !isCall scripts inner).map fun inner =>
        .callRemoved (String.ofList inner) := by
  rw [outcomes, List.filterMap_map, List.filter_filterMap, scriptTexts, List.filter_filterMap,
    List.map_filterMap]
  exact List.filterMap_congr fun p _ => (outcome_scriptText? p).2

/-- Taking out what calls no known script changes nothing else. -/
theorem formatOf_withoutUnknown :
    formatOf F scripts (withoutUnknown scripts cs) = formatOf F scripts cs := by
  rw [formatOf, outcomes, withoutUnknown, pieces_filter fun _ => rfl, formatOf, outcomes,
    List.flatMap_map, List.flatMap_map]
  induction pieces cs with
  | nil => rfl
  | cons p ps ih =>
    cases hp : (scriptText? p).all (isCall scripts) with
    | true =>
      rw [List.filter_cons_of_pos (p := fun p => (scriptText? p).all (isCall scripts)) hp,
        List.flatMap_cons, List.flatMap_cons, ih]
    | false =>
      obtain ⟨inner, hinner, hcall⟩ : ∃ inner, scriptText? p = some inner ∧
          isCall scripts inner = false := by
        cases hinner : scriptText? p with
        | none =>
          rw [hinner] at hp
          cases hp
        | some inner =>
          rw [hinner] at hp
          exact ⟨inner, rfl, hp⟩
      -- What is taken out would have been dropped, so it adds no text.
      have hsource : (outcome F scripts p).source = [] := by
        rw [outcome_of_unknown hinner hcall]
        rfl
      rw [List.filter_cons_of_neg (p := fun p => (scriptText? p).all (isCall scripts))
        (by simp [hp]), ih, List.flatMap_cons, hsource, List.nil_append]

end Pieces

end Template

theorem Event.message_callRemoved (inner : List Char) :
    (Event.callRemoved (String.ofList inner)).message =
      "Script call not found: " ++ String.ofList (Piece.fragment inner).source := by
  have hmessage : (Event.callRemoved (String.ofList inner)).message =
      "Script call not found: \x7b" ++ String.ofList inner ++ "\x7d" := rfl
  have hopen : "Script call not found: \x7b" = "Script call not found: " ++ "\x7b" := by
    decide +kernel
  have hsource : (Piece.fragment inner).source = ['{'] ++ (inner ++ ['}']) := rfl
  rw [hmessage, hopen, hsource, String.ofList_append, String.ofList_append, String.append_assoc,
    String.append_assoc]

namespace Label

open Reading (isCall)
open Template

/-- What compiling makes of the script fragments of a template. -/
structure ExtractsCalls (F : Type) [DecidableEq F] [TokenDomain F] (scripts : List String)
    (source : String) (label : Label) (events : List Event) : Prop where
  nodup : label.calls.Nodup
  /-- The calls are the fragments that call a known script. -/
  listed : ∀ c, c ∈ label.calls ↔
    ∃ inner, .fragment inner ∈ pieces source.toList ∧ c.IsMadeBy scripts inner
  /-- They stand in the order in which they first appear. -/
  inOrder : label.calls.Pairwise fun c d =>
    (pieces source.toList).idxOf (.fragment c.inner) <
      (pieces source.toList).idxOf (.fragment d.inner)
  /-- The placeholder of a call is its fragment as it was, which the format still holds. -/
  placed : ∀ c ∈ label.calls, ∀ inner, c.IsMadeBy scripts inner →
    c.placeholder = '{' :: inner ++ ['}'] ∧ .fragment inner ∈ pieces label.format.toList ∧
      c.placeholder <:+: label.format.toList
  /-- Of the script fragments, just these stay, each as often as it was there. -/
  kept : scriptTexts label.format.toList = (scriptTexts source.toList).filter (isCall scripts)
  /-- The others go away: the format is the one of the template without them. -/
  removed : label.format.toList = formatOf F scripts (withoutUnknown scripts source.toList)
  /-- All warnings are about them, one for each in the order of the text. -/
  warned : (events.filter (·.level = .warn)).map Event.message =
    ((scriptTexts source.toList).filter fun inner => !isCall scripts inner).map fun inner =>
      "Script call not found: " ++ String.ofList (Piece.fragment inner).source

section Compiled

variable (F : Type) [DecidableEq F] [TokenDomain F] (scripts : List String)

theorem fragment_of_isMadeBy {inner : List Char} {c : Call} (h : c.IsMadeBy scripts inner) :
    fragment F scripts inner = .call c := by
  have hc := findCall?_eq_some_iff.2 h
  obtain ⟨rfl, -⟩ := h
  rw [fragment, if_pos (List.isPrefixOf_iff_prefix.2 (script_prefix_inner c)), hc]

theorem extractsCalls_compile (source : String) (r : Rounding) (u : Bool) :
    ExtractsCalls F scripts source (compile F scripts source r u).1
      (compile F scripts source r u).2 := by
  have hcalls : (compile F scripts source r u).1.calls =
      ((pieces source.toList).filterMap fun p => (outcome F scripts p).call?).eraseDups := by
    rw [calls_compile, outcomes, List.filterMap_map]
    rfl
  have horder : (compile F scripts source r u).1.calls.Pairwise fun c d =>
      (pieces source.toList).idxOf (.fragment c.inner) <
        (pieces source.toList).idxOf (.fragment d.inner) := by
    rw [hcalls]
    apply pairwise_idxOf_eraseDups (f := fun c : Call => Piece.fragment c.inner)
    exact fun p c hc => (eq_fragment_of_call? hc).1.symm
  have hlisted : ∀ c, c ∈ (compile F scripts source r u).1.calls ↔
      ∃ inner, .fragment inner ∈ pieces source.toList ∧ c.IsMadeBy scripts inner := by
    intro c
    constructor
    · intro hc
      obtain ⟨hmem, hfind⟩ := of_mem_calls hc
      exact ⟨c.inner, hmem, findCall?_eq_some_iff.1 hfind⟩
    · rintro ⟨inner, hmem, hmade⟩
      exact mem_calls hmem (fragment_of_isMadeBy F scripts hmade)
  constructor
  case nodup =>
    apply horder.imp
    rintro c d hlt rfl
    exact Nat.lt_irrefl _ hlt
  case listed => exact hlisted
  case inOrder => exact horder
  case placed =>
    intro c hc inner hmade
    obtain ⟨rfl, -⟩ := id hmade
    obtain ⟨old, hold, hold'⟩ := (hlisted c).1 hc
    obtain ⟨rfl, -⟩ := hold'
    have hformat : .fragment c.inner ∈ pieces (formatOf F scripts source.toList) := by
      apply fragment_mem_pieces_formatOf.2
      refine ⟨c.inner, hold, ?_⟩
      rw [fragment_of_isMadeBy F scripts hmade]
      rfl
    rw [format_compile, String.toList_ofList]
    refine ⟨rfl, hformat, ?_⟩
    have hinfix : c.placeholder ∈ (pieces (formatOf F scripts source.toList)).map Piece.source :=
      List.mem_map.2 ⟨_, hformat, rfl⟩
    have htext := source_pieces (formatOf F scripts source.toList)
    rw [List.flatMap_def] at htext
    rw [← htext]
    exact List.infix_of_mem_flatten hinfix
  case kept =>
    rw [format_compile, String.toList_ofList]
    exact scriptTexts_formatOf source.toList
  case removed =>
    rw [format_compile, String.toList_ofList]
    exact (formatOf_withoutUnknown source.toList).symm
  case warned =>
    rw [events_compile, warnings_outcomes, List.map_map]
    exact List.map_congr_left fun inner _ => Event.message_callRemoved inner

end Compiled

end Label

end RaceOverlay
