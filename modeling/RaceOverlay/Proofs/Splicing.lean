import Mathlib.Data.List.Basic
import Mathlib.Data.List.Find
import RaceOverlay.Proofs.Pieces
import RaceOverlay.Template.Splice

/-!
# Splicing by pieces

A placeholder ends at its only closing brace. So splicing never takes text from two pieces of a
format at once. It replaces the fragments that are calls, and it may replace the end of another
fragment in which a call is written.
-/
namespace RaceOverlay.Format

open Piece

/-- The result of the call that a piece is. -/
def result? (answers : List (Call × String)) : Piece → Option String
  | .fragment inner => (answers.find? fun a => a.1.inner = inner).map Prod.snd
  | _ => none

/-- No call has a closing brace in its text. -/
def Plain (answers : List (Call × String)) : Prop := ∀ a ∈ answers, '}' ∉ a.1.inner

variable {answers : List (Call × String)}

theorem splice_empty (answers : List (Call × String)) : splice answers [] = [] := by
  rw [splice]

theorem splice_brace (rest : List Char) :
    splice answers ('{' :: '{' :: rest) = '{' :: '{' :: splice answers rest := by
  rw [splice]

private theorem splice_open {rest : List Char} (hd : rest.head? ≠ some '{') :
    splice answers ('{' :: rest) =
      match answered? answers ('{' :: rest) with
      | some (call, result) =>
        escape result.toList ++ splice answers (rest.drop (call.placeholder.length - 1))
      | none => '{' :: splice answers rest := by
  refine splice.eq_3 answers rest fun rest' h => hd ?_
  rw [h, List.head?_cons]

theorem splice_plain {c : Char} (hc : c ≠ '{') (rest : List Char) :
    splice answers (c :: rest) = c :: splice answers rest :=
  splice.eq_4 _ _ _ (fun _ h _ => hc h) hc

/-- Without calls nothing is replaced. -/
theorem splice_no_answers (cs : List Char) : splice [] cs = cs := by
  fun_induction splice [] cs with
  | case1 => rfl
  | case2 rest ih => rw [ih]
  | case3 rest hd call result ha ih => cases ha
  | case4 rest hd ha ih => rw [ih]
  | case5 c rest hd hc ih => rw [ih]

theorem splice_of_not_open {cs : List Char} (h : '{' ∉ cs) : splice answers cs = cs := by
  induction cs with
  | nil => exact splice_empty answers
  | cons c cs ih =>
    have hc : c ≠ '{' := fun he => h (he ▸ List.mem_cons_self)
    rw [splice_plain hc, ih fun hm => h (List.mem_cons_of_mem _ hm)]

section Placeholders

private theorem placeholder_eq (c : Call) : c.placeholder = '{' :: (c.inner ++ ['}']) := rfl

private theorem isPrefixOf_placeholder {c : Call} {w : List Char} (hc : '}' ∉ c.inner)
    (hw : '}' ∉ w) (rest : List Char) :
    c.placeholder.isPrefixOf ('{' :: (w ++ '}' :: rest)) = decide (c.inner = w) := by
  rw [placeholder_eq, List.isPrefixOf_cons_cons_self, Bool.eq_iff_iff, List.isPrefixOf_iff_prefix,
    decide_eq_true_iff]
  constructor
  · rintro ⟨t, ht⟩
    rw [List.append_assoc, List.singleton_append] at ht
    obtain ⟨v, hv, hs⟩ := exists_append_of_append_eq hc ht
    cases v with
    | nil => rw [hv, List.append_nil]
    | cons d v =>
      -- A first character of the rest would be the closing brace.
      rw [List.cons_append, List.cons.injEq] at hs
      exact absurd (by rw [hv, hs.1]; simp) hw
  · intro he
    refine ⟨rest, ?_⟩
    rw [he, List.append_assoc, List.singleton_append]

/-- Which call a fragment answers depends on its text alone. -/
theorem answered?_fragment (hA : Plain answers) {w : List Char} (hw : '}' ∉ w)
    (rest : List Char) :
    answered? answers ('{' :: (w ++ '}' :: rest)) = answers.find? fun a => a.1.inner = w :=
  List.find?_congr fun a ha => isPrefixOf_placeholder (hA a ha) hw rest

/-- A text without closing braces calls nothing. -/
theorem answered?_of_not_mem {cs : List Char} (h : '}' ∉ cs) : answered? answers cs = none := by
  rw [answered?, List.find?_eq_none]
  intro a _ hp
  have hsub := (List.isPrefixOf_iff_prefix.1 hp).subset
  refine h (hsub ?_)
  rw [placeholder_eq]
  simp

theorem splice_of_not_mem {w : List Char} (hw : '}' ∉ w) : splice answers w = w := by
  fun_induction splice answers w with
  | case1 => rfl
  | case2 rest ih => rw [ih (by simpa using hw)]
  | case3 rest hd call result ha ih =>
    rw [answered?_of_not_mem hw] at ha
    cases ha
  | case4 rest hd ha ih => rw [ih (by simpa using hw)]
  | case5 c rest hd hc ih => rw [ih fun hm => hw (List.mem_cons_of_mem _ hm)]

theorem head?_append_close {w rest : List Char} (hd : w.head? ≠ some '{') :
    (w ++ '}' :: rest).head? ≠ some '{' := by
  cases w with
  | nil => simp
  | cons c w => exact hd

theorem splice_fragment_of_some (hA : Plain answers) {w : List Char} (hw : IsInner w)
    {result : String} (hr : result? answers (.fragment w) = some result) (rest : List Char) :
    splice answers ('{' :: (w ++ '}' :: rest)) = escape result.toList ++ splice answers rest := by
  obtain ⟨a, hf, rfl⟩ := Option.map_eq_some_iff.1 hr
  have hi : a.1.inner = w := by simpa using List.find?_some hf
  have hl : a.1.placeholder.length - 1 = (w ++ ['}']).length := by
    rw [placeholder_eq, hi, List.length_cons, Nat.add_sub_cancel]
  rw [splice_open (head?_append_close hw.2), answered?_fragment hA hw.1, hf]
  dsimp only
  rw [hl, List.append_cons w '}' rest, List.drop_left]

theorem splice_fragment_of_none (hA : Plain answers) {w : List Char} (hw : IsInner w)
    (hr : result? answers (.fragment w) = none) (rest : List Char) :
    splice answers ('{' :: (w ++ '}' :: rest)) = '{' :: splice answers (w ++ '}' :: rest) := by
  have hf := Option.map_eq_none_iff.1 hr
  rw [splice_open (head?_append_close hw.2), answered?_fragment hA hw.1, hf]

end Placeholders

/-- Inside a fragment, splicing goes on to the closing brace, and only the text up to there decides
what becomes of it: it stays up to a call at the end, if there is one. -/
theorem splice_to_close (hA : Plain answers) {w : List Char} (hw : '}' ∉ w) :
    ∃ u e, '}' ∉ u ∧ (e = ['}'] ∨ ∃ result, e = escape result) ∧
      ∀ rest, splice answers (w ++ '}' :: rest) = u ++ e ++ splice answers rest := by
  fun_induction splice answers w with
  | case1 =>
    refine ⟨[], ['}'], by simp, .inl rfl, fun rest => ?_⟩
    exact splice_plain (by decide) rest
  | case2 w ih =>
    obtain ⟨u, e, hu, he, h⟩ := ih (by simpa using hw)
    refine ⟨'{' :: '{' :: u, e, by simpa using hu, he, fun rest => ?_⟩
    rw [List.cons_append, List.cons_append, splice_brace, h]
    rfl
  | case3 w hd call result ha ih =>
    rw [answered?_of_not_mem hw] at ha
    cases ha
  | case4 w hd ha ih =>
    have hi : IsInner w := ⟨by simpa using hw, head?_ne_of_ne_cons hd⟩
    obtain ⟨u, e, hu, he, h⟩ := ih hi.1
    cases hr : result? answers (.fragment w) with
    | some result =>
      refine ⟨[], escape result.toList, by simp, .inr ⟨_, rfl⟩, fun rest => ?_⟩
      rw [List.cons_append, splice_fragment_of_some hA hi hr, List.nil_append]
    | none =>
      refine ⟨'{' :: u, e, by simpa using hu, he, fun rest => ?_⟩
      rw [List.cons_append, splice_fragment_of_none hA hi hr, h]
      rfl
  | case5 c w hd hc ih =>
    obtain ⟨u, e, hu, he, h⟩ := ih fun hm => hw (List.mem_cons_of_mem _ hm)
    have hcw : c ≠ '}' := fun hm => hw (hm ▸ List.mem_cons_self)
    refine ⟨c :: u, e, by simp [hu, Ne.symm hcw], he, fun rest => ?_⟩
    rw [List.cons_append, splice_plain hc, h]
    rfl

theorem splice_source_append (hA : Plain answers) {p : Piece} (hp : p.IsClosed)
    (rest : List Char) :
    splice answers (p.source ++ rest) = splice answers p.source ++ splice answers rest := by
  cases p with
  | plain c =>
    rw [source, List.singleton_append, splice_plain hp, splice_plain hp, splice_empty]
    rfl
  | brace =>
    rw [source, List.cons_append, List.singleton_append, splice_brace, splice_brace, splice_empty]
    rfl
  | fragment inner =>
    have hsource := source_fragment_append inner []
    rw [List.append_nil] at hsource
    rw [source_fragment_append, hsource]
    cases hr : result? answers (.fragment inner) with
    | some result =>
      rw [splice_fragment_of_some hA hp hr, splice_fragment_of_some hA hp hr, splice_empty,
        List.append_nil]
    | none =>
      obtain ⟨u, e, -, -, h⟩ := splice_to_close hA hp.1
      rw [splice_fragment_of_none hA hp hr, splice_fragment_of_none hA hp hr, h, h, splice_empty,
        List.append_nil, List.cons_append]
  | unclosed _ => exact hp.elim

/-- A format is spliced piece by piece. -/
theorem splice_flatMap_source (hA : Plain answers) {ps : List Piece} (h : WellFormed ps) :
    splice answers (ps.flatMap source) = ps.flatMap fun p => splice answers p.source := by
  induction h with
  | nil => exact splice_empty answers
  | unclosed hr => simp
  | cons hp _ ih => rw [List.flatMap_cons, splice_source_append hA hp, ih, List.flatMap_cons]

end RaceOverlay.Format
