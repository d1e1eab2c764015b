import RaceOverlay.Proofs.CompiledFragments
import RaceOverlay.Proofs.LiteralResults
import RaceOverlay.Proofs.NamedRendering

/-!
# Labels that resolve

A template whose fragments are names, external columns and calls of known scripts is never broken by
its data. Each piece of its format is a recorded call or can be filled by itself, and a result adds
only pieces that can be filled, whatever its text is.
-/
namespace RaceOverlay.Template

open Format (slotText?)
open Reading (isCall)
open Text (decimal maxUnsigned64 digits? isDigits)

section Fragments

variable (F : Type) [DecidableEq F] [TokenDomain F]

/-- A fragment that resolves: a name, a column, either one with a name as its fallback, or a call of
a known script. -/
inductive Resolves (scripts : List String) : List Char → Prop where
  | token (f : F) : Resolves scripts (TokenDomain.name f).toList
  | tokenOr (f g : F) :
      Resolves scripts ((TokenDomain.name f).toList ++ '|' :: (TokenDomain.name g).toList)
  | column {digits : List Char} : isDigits digits = true →
      Resolves scripts ("external:".toList ++ digits)
  | columnOr {digits : List Char} (g : F) : isDigits digits = true →
      Resolves scripts ("external:".toList ++ digits ++ '|' :: (TokenDomain.name g).toList)
  | call {inner : List Char} : isCall scripts inner = true → Resolves scripts inner

/-- A piece of a template in which every fragment resolves. -/
def PieceResolves (scripts : List String) : Piece → Prop
  | .fragment inner => Resolves F scripts inner
  | .unclosed _ => False
  | _ => True

/-- A primary part that cannot break its fragment. -/
inductive PartResolves : Part → Prop where
  | field (f : F) : PartResolves (.slot (TokenDomain.slot f))
  | column {n : Nat} : n ≤ maxUnsigned64 → PartResolves (.column n)
  | malformed : PartResolves .malformed

/-- The fragment text can be filled whatever the fields hold. -/
def AlwaysFilled (s : List Char) : Prop :=
  ∀ fields : Fields F, (slotText? fields.slot? s).isSome = true

variable {F} {scripts : List String}

theorem resolved_alone (inner : List Char) {p : Part} (h : PartResolves F p) :
    (∃ e, resolved inner none p = .drop e) ∨
      ∃ s, resolved inner none p = .keep (.fragment s) ∧ AlwaysFilled F s := by
  cases h with
  | field f =>
    refine .inr ⟨decimal (TokenDomain.slot f), rfl, fun fields => ?_⟩
    rw [Format.slotText?_decimal _ (TokenDomain.slot_le f), Fields.slot?_slot]
    rfl
  | @column n hn =>
    refine .inr ⟨decimal n ++ ['|'], rfl, fun fields => ?_⟩
    rw [Format.slotText?_decimal_bar, if_pos hn]
    rfl
  | malformed => exact .inl ⟨_, rfl⟩

/-- A name as the fallback holds a text in any case. -/
theorem resolved_orElse (inner : List Char) {p : Part} (h : PartResolves F p) (g : F) :
    ∃ s, resolved inner (some (decimal (TokenDomain.slot g))) p = .keep (.fragment s) ∧
      AlwaysFilled F s := by
  have hg := TokenDomain.slot_le g
  cases h with
  | field f =>
    refine ⟨_, rfl, fun fields => ?_⟩
    rw [Format.slotText?_decimal_bar_decimal _ _ hg, if_pos (TokenDomain.slot_le f),
      Fields.slot?_slot]
    rfl
  | @column n hn =>
    refine ⟨_, rfl, fun fields => ?_⟩
    rw [Option.getD_some, Format.slotText?_decimal_bar_decimal _ _ hg, if_pos hn,
      Fields.slot?_slot, Option.isSome_or, Option.isSome_some, Bool.or_true]
  | malformed =>
    refine ⟨decimal (TokenDomain.slot g), resolved_malformed inner _, fun fields => ?_⟩
    rw [Format.slotText?_decimal _ hg, Fields.slot?_slot]
    rfl

theorem partResolves_name (f : F) : PartResolves F (part F (TokenDomain.name f).toList) := by
  rw [part_name]
  exact .field f

private theorem external_prefix_append (cs : List Char) :
    "external".toList <+: "external:".toList ++ cs := by
  have hword : "external".toList <+: "external:".toList := by decide +kernel
  exact hword.trans (List.prefix_append _ _)

private theorem not_namesSlot_external (cs : List Char) :
    ¬ NamesSlot F ("external:".toList ++ cs) := by
  rintro (⟨f, hf⟩ | ⟨n, -, hn⟩)
  · apply TokenDomain.not_mem_name (c := ':') (by decide) (by decide) (by decide) f
    rw [hf]
    exact List.mem_append_left _ (by decide)
  · have hdigits : isDigits ("external:".toList ++ cs) = false := by
      by_contra hall
      exact not_external_of_isDigits (by simpa using hall) (external_prefix_append cs)
    rw [Text.digits?_eq_none_iff.2 hdigits] at hn
    cases hn

theorem partResolves_column (cs : List Char) :
    PartResolves F (part F ("external:".toList ++ cs)) := by
  rcases part_cases F ("external:".toList ++ cs) with ⟨hs, -⟩ | ⟨-, -, hp⟩ | ⟨hu, -⟩
  · exact absurd hs (not_namesSlot_external cs)
  · rw [hp]
    rcases externalPart_cases F ("external:".toList ++ cs) with he | ⟨-, -, n, -, -, he⟩
    · rw [he]
      exact .malformed
    · rw [he]
      exact .column (TokenDomain.columnSlot_le n)
  · exact absurd (external_prefix_append cs) hu.2

theorem token_of_name_fallback {primary : List Char} (hbar : '|' ∉ primary)
    (h : PartResolves F (part F primary)) (g : F) :
    ∃ s, token F (primary ++ '|' :: (TokenDomain.name g).toList) = .keep (.fragment s) ∧
      AlwaysFilled F s := by
  rw [token_of_some (splitBar_append hbar _) (TokenDomain.name_ne_nil g), part_name]
  exact resolved_orElse _ h g

private theorem bar_not_mem_name (f : F) : '|' ∉ (TokenDomain.name f).toList :=
  TokenDomain.not_mem_name (by decide) (by decide) (by decide) f

private theorem bar_not_mem_column {digits : List Char} (h : isDigits digits = true) :
    '|' ∉ "external:".toList ++ digits := by
  rw [List.mem_append, not_or]
  refine ⟨by decide, fun hm => ?_⟩
  have hd := (Text.isDigits_iff.1 h).2 '|' hm
  exact absurd hd (by decide)

/-- A fragment that resolves is called, dropped, or brought to a form that can be filled. -/
theorem fragment_of_resolves {inner : List Char} (h : Resolves F scripts inner) :
    (∃ c, c.inner = inner ∧ fragment F scripts inner = .call c) ∨
      (∃ e, fragment F scripts inner = .drop e) ∨
      ∃ s, fragment F scripts inner = .keep (.fragment s) ∧ AlwaysFilled F s := by
  cases hc : findCall? scripts inner with
  | some c =>
    obtain rfl := (findCall?_eq_some hc).1
    refine .inl ⟨c, rfl, ?_⟩
    rw [fragment, if_pos (List.isPrefixOf_iff_prefix.2 (script_prefix_inner c)), hc]
  | none =>
    cases hp : "script".toList.isPrefixOf inner with
    | true =>
      refine .inr (.inl ⟨.callRemoved (String.ofList inner), ?_⟩)
      rw [fragment, if_pos hp, hc]
    | false =>
      rw [fragment_of_not_script hp]
      cases h with
      | token f =>
        rw [token_of_none (splitBar_of_not_mem (bar_not_mem_name f))]
        exact .inr (resolved_alone _ (partResolves_name f))
      | tokenOr f g =>
        exact .inr (.inr (token_of_name_fallback (bar_not_mem_name f) (partResolves_name f) g))
      | column hdigits =>
        rw [token_of_none (splitBar_of_not_mem (bar_not_mem_column hdigits))]
        exact .inr (resolved_alone _ (partResolves_column _))
      | columnOr g hdigits =>
        exact .inr (.inr (token_of_name_fallback (bar_not_mem_column hdigits)
          (partResolves_column _) g))
      | call hcall =>
        rw [Reading.findCall?_eq_none_iff.1 hc] at hcall
        cases hcall

end Fragments

end RaceOverlay.Template

namespace RaceOverlay.Label

open Template
open Format (fill result? filledAlone)
open Reading (fillable)

section Rendering

variable {F : Type} [DecidableEq F] [TokenDomain F] {scripts : List String} {source : String}
variable {r : Rounding} {u : Bool} {results : List String}

/-- Each piece of the format of a template that resolves is a recorded call or can be filled. -/
theorem call_or_fillable
    (hsource : ∀ p ∈ pieces source.toList, PieceResolves F scripts p) (fields : Fields F)
    {q : Piece} (hq : q ∈ pieces (compile F scripts source r u).1.format.toList) :
    (∃ c ∈ (compile F scripts source r u).1.calls, q = .fragment c.inner) ∨
      fillable (Format.slotText? fields.slot?) q = true := by
  rw [format_compile, String.toList_ofList, pieces_formatOf, kept, List.mem_filterMap] at hq
  obtain ⟨p, hp, ho⟩ := hq
  have hresolves := hsource p hp
  cases p with
  | plain c =>
    cases ho
    exact .inr rfl
  | brace =>
    cases ho
    exact .inr rfl
  | unclosed rest => exact hresolves.elim
  | fragment inner =>
    rw [outcome] at ho
    rcases fragment_of_resolves hresolves with ⟨c, hc, hcall⟩ | ⟨e, he⟩ | ⟨s, hs, hfilled⟩
    · rw [hcall] at ho
      cases ho
      exact .inl ⟨c, mem_calls hp hcall, rfl⟩
    · rw [he] at ho
      cases ho
    · rw [hs] at ho
      cases ho
      exact .inr (hfilled fields)

theorem filledAlone_of_resolves
    (hsource : ∀ p ∈ pieces source.toList, PieceResolves F scripts p) (fields : Fields F)
    (hlen : results.length = (compile F scripts source r u).1.calls.length) :
    filledAlone fields.slot? ((compile F scripts source r u).1.calls.zip results)
      (pieces (compile F scripts source r u).1.format.toList) = true := by
  rw [filledAlone, List.all_eq_true]
  intro q hq
  rw [Bool.or_eq_true, isSome_result?_zip hlen]
  exact call_or_fillable hsource fields hq

/-- A label whose template resolves is never broken by its data: whatever the fields hold, however
many columns there are and whatever the results of the calls are, the spliced format can be filled,
and the label shows the text. -/
theorem fill_spliced_of_resolves (F : Type) [DecidableEq F] [TokenDomain F]
    (scripts : List String) (source : String) (r : Rounding) (u : Bool) (fields : Fields F)
    (results : List String)
    (hsource : ∀ p ∈ pieces source.toList, PieceResolves F scripts p)
    (hlen : results.length = (compile F scripts source r u).1.calls.length) :
    let label := (compile F scripts source r u).1
    ∃ text, fill fields.slot? (label.spliced results) = .ok text ∧
      label.render fields results =
        if u then Text.uppercase (String.ofList (breakLines text))
        else String.ofList (breakLines text) := by
  intro label
  have hfill := Format.toOption_fill_splice (plain_zip_calls (F := F) scripts source r u results)
    (wellFormed_pieces label.format.toList) (filledAlone_of_resolves hsource fields hlen)
  rw [source_pieces, ← spliced_eq] at hfill
  cases hspliced : fill fields.slot? (label.spliced results) with
  | error e =>
    rw [hspliced] at hfill
    cases hfill
  | ok text =>
    refine ⟨text, rfl, ?_⟩
    rw [render, hspliced]
    rfl

end Rendering

/-- Calls beside escaped braces, between closing braces and beside each other, a column with a
fallback, a column that is missing, and one whose slot is that of a field. -/
def resolvedSource : String :=
  "\x7b\x7b\x7bscript:team:0\x7d\x7d\x7d\x7bscript:team:\x7b\x7d\x7d\x7bscript:team:0\x7d" ++
    "\x7bexternal:0|gap\x7d\x7bexternal:3\x7d\x7bexternal:18446744073709551615\x7d" ++
    "\x7bposition|gap\x7d\x7bfullname\x7d"

def resolvedFields : Fields StandingField :=
  ((Fields.blank StandingField).set .position "7").set .gap "+1 lap\x7b"

theorem fill_spliced_of_resolves_sample :
    let label := (compile StandingField ["team"] resolvedSource .full true).1
    let results := ["\x7d\x7b0\x7d", "\x7bb\x7b"]
    (∀ p ∈ pieces resolvedSource.toList, PieceResolves StandingField ["team"] p) ∧
      results.length = label.calls.length ∧
      (∃ text, fill resolvedFields.slot? (label.spliced results) = .ok text) ∧
      label.render resolvedFields results =
        "\x7b\x7d\x7b0\x7d\x7d\x7bB\x7b\x7d\x7d\x7b0\x7d+1 LAP\x7b7" := by
  intro label results
  have hpieces : pieces resolvedSource.toList =
      [.brace, .fragment "script:team:0".toList, .plain '}', .plain '}',
        .fragment "script:team:\x7b".toList, .plain '}', .fragment "script:team:0".toList,
        .fragment "external:0|gap".toList, .fragment "external:3".toList,
        .fragment "external:18446744073709551615".toList, .fragment "position|gap".toList,
        .fragment "fullname".toList] := by decide +kernel
  have hfallback : "external:0|gap".toList =
      "external:".toList ++ ['0'] ++ '|' :: (TokenDomain.name StandingField.gap).toList := by
    decide +kernel
  have hmissing : "external:3".toList = "external:".toList ++ ['3'] := by decide +kernel
  have hlast : "external:18446744073709551615".toList =
      "external:".toList ++ Text.decimal Text.maxUnsigned64 := by decide +kernel
  have hnames : "position|gap".toList = (TokenDomain.name StandingField.position).toList ++
      '|' :: (TokenDomain.name StandingField.gap).toList := by decide +kernel
  have hsource : ∀ p ∈ pieces resolvedSource.toList, PieceResolves StandingField ["team"] p := by
    intro p hp
    simp only [hpieces, List.mem_cons, List.not_mem_nil, or_false] at hp
    rcases hp with rfl | rfl | rfl | rfl | rfl | rfl | rfl | rfl | rfl | rfl | rfl | rfl
    · trivial
    · exact .call (by decide +kernel)
    · trivial
    · trivial
    · exact .call (by decide +kernel)
    · trivial
    · exact .call (by decide +kernel)
    · rw [PieceResolves, hfallback]
      exact .columnOr StandingField.gap (by decide +kernel)
    · rw [PieceResolves, hmissing]
      exact .column (by decide +kernel)
    · rw [PieceResolves, hlast]
      exact .column (by decide +kernel)
    · rw [PieceResolves, hnames]
      exact .tokenOr StandingField.position StandingField.gap
    · exact .token StandingField.fullName
  have hlen : results.length = label.calls.length := by decide +kernel
  obtain ⟨text, hfill, -⟩ := fill_spliced_of_resolves StandingField ["team"] resolvedSource .full
    true resolvedFields results hsource hlen
  exact ⟨hsource, hlen, ⟨text, hfill⟩, by decide +kernel⟩

end RaceOverlay.Label
