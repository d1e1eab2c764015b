import RaceOverlay.Template.Piece

/-!
# Cutting is unique

The pieces of a text are the only well-formed pieces with that text. So text that is put together
from well-formed pieces is cut back into exactly these pieces, whichever ones stand side by side.
-/
namespace RaceOverlay

/-- Text without a character ends at the first one of these or before. -/
theorem exists_append_of_append_eq {c : Char} {u t x y : List Char} (hu : c ∉ u)
    (h : u ++ t = x ++ c :: y) : ∃ v, x = u ++ v ∧ t = v ++ c :: y := by
  rcases List.append_eq_append_iff.1 h with ⟨v, hx, ht⟩ | ⟨v, hx, ht⟩
  · exact ⟨v, hx, ht⟩
  · cases v with
    | nil => exact ⟨[], by simpa using hx.symm, by simpa using ht.symm⟩
    | cons d v =>
      rw [List.cons_append, List.cons.injEq] at ht
      exact absurd (by rw [hx, ← ht.1]; simp) hu

namespace Piece

/-- The opening brace of a fragment is not doubled, and its text ends at the next closing brace. -/
def IsInner (inner : List Char) : Prop := '}' ∉ inner ∧ inner.head? ≠ some '{'

theorem head?_ne_of_ne_cons {c : Char} {cs : List Char} (h : ∀ rest, cs ≠ c :: rest) :
    cs.head? ≠ some c := by
  cases cs with
  | nil => simp
  | cons d cs =>
    intro hd
    have he : d = c := by simpa using hd
    exact h cs (by rw [he])

/-- A piece that ends where it ends, whatever text follows it. -/
def IsClosed : Piece → Prop
  | .plain c => c ≠ '{'
  | .brace => True
  | .fragment inner => IsInner inner
  | .unclosed _ => False

/-- Pieces as a cut gives them: only the last one may be unclosed. -/
inductive WellFormed : List Piece → Prop where
  | nil : WellFormed []
  | unclosed {rest : List Char} : IsInner rest → WellFormed [.unclosed rest]
  | cons {p : Piece} {ps : List Piece} : p.IsClosed → WellFormed ps → WellFormed (p :: ps)

private theorem cut_some_append {inner w : List Char} (hw : '}' ∉ w) (cs : List Char) :
    cut (some inner) (w ++ cs) = cut (some (w.reverse ++ inner)) cs := by
  induction w generalizing inner with
  | nil => rfl
  | cons c w ih =>
    have hc : c ≠ '}' := fun h => hw (h ▸ List.mem_cons_self)
    have hr : '}' ∉ w := fun h => hw (List.mem_cons_of_mem _ h)
    rw [List.cons_append, cut.eq_7 _ _ _ hc, ih hr]
    simp

theorem cut_plain {c : Char} (hc : c ≠ '{') (cs : List Char) :
    cut none (c :: cs) = .plain c :: cut none cs :=
  cut.eq_4 c cs (fun _ h _ => hc h) hc

theorem cut_open {cs : List Char} (hd : cs.head? ≠ some '{') :
    cut none ('{' :: cs) = cut (some []) cs := by
  refine cut.eq_3 cs fun rest h => hd ?_
  rw [h, List.head?_cons]

end Piece

open Piece

theorem pieces_nil : pieces [] = [] := rfl

theorem pieces_plain {c : Char} (hc : c ≠ '{') (cs : List Char) :
    pieces (c :: cs) = .plain c :: pieces cs := cut_plain hc cs

theorem pieces_fragment {inner : List Char} (h : IsInner inner) (cs : List Char) :
    pieces ('{' :: (inner ++ '}' :: cs)) = .fragment inner :: pieces cs := by
  have hd : (inner ++ '}' :: cs).head? ≠ some '{' := by
    cases inner with
    | nil => simp
    | cons c inner => exact h.2
  rw [pieces, cut_open hd, cut_some_append h.1]
  simp [cut, pieces]

theorem pieces_unclosed {rest : List Char} (h : IsInner rest) :
    pieces ('{' :: rest) = [.unclosed rest] := by
  have hc : cut (some []) (rest ++ []) = _ := cut_some_append h.1 []
  rw [List.append_nil] at hc
  rw [pieces, cut_open h.2, hc]
  simp [cut]

theorem source_fragment_append (inner cs : List Char) :
    (Piece.fragment inner).source ++ cs = '{' :: (inner ++ '}' :: cs) := by
  simp [source]

theorem pieces_source_append {p : Piece} (hp : p.IsClosed) (cs : List Char) :
    pieces (p.source ++ cs) = p :: pieces cs := by
  cases p with
  | plain c => exact pieces_plain hp cs
  | brace => rfl
  | fragment inner => rw [source_fragment_append, pieces_fragment hp]
  | unclosed rest => exact hp.elim

theorem pieces_flatMap_source_append {ps : List Piece} (h : ∀ p ∈ ps, p.IsClosed)
    (cs : List Char) : pieces (ps.flatMap source ++ cs) = ps ++ pieces cs := by
  induction ps with
  | nil => rfl
  | cons p ps ih =>
    rw [List.flatMap_cons, List.append_assoc, pieces_source_append (h p List.mem_cons_self),
      ih fun q hq => h q (List.mem_cons_of_mem _ hq), List.cons_append]

/-- Well-formed pieces are cut back from their text. -/
theorem pieces_flatMap_source {ps : List Piece} (h : WellFormed ps) :
    pieces (ps.flatMap source) = ps := by
  induction h with
  | nil => rfl
  | unclosed hr => simpa [source] using pieces_unclosed hr
  | cons hp _ ih => rw [List.flatMap_cons, pieces_source_append hp, ih]

namespace Piece

/-- What a cut gives is well formed. Inside a fragment, the characters read so far are no closing
braces, and the first one is no opening brace. -/
private theorem wellFormed_cut (state : Option (List Char)) (cs : List Char)
    (h : ∀ inner, state = some inner → '}' ∉ inner ∧ (inner.reverse ++ cs).head? ≠ some '{') :
    WellFormed (cut state cs) := by
  fun_induction cut state cs with
  | case1 => exact .nil
  | case2 rest ih => exact .cons trivial (ih (by simp))
  | case3 rest hd ih =>
    refine ih fun inner hi => ?_
    cases hi
    exact ⟨by simp, head?_ne_of_ne_cons hd⟩
  | case4 c rest hd hc ih => exact .cons hc (ih (by simp))
  | case5 inner =>
    obtain ⟨hb, hh⟩ := h inner rfl
    rw [List.append_nil] at hh
    exact .unclosed ⟨by simpa using hb, hh⟩
  | case6 inner rest ih =>
    obtain ⟨hb, hh⟩ := h inner rfl
    refine .cons ⟨by simpa using hb, ?_⟩ (ih (by simp))
    cases hr : inner.reverse with
    | nil => simp
    | cons c cs => rw [hr] at hh; exact hh
  | case7 inner c rest hc ih =>
    obtain ⟨hb, hh⟩ := h inner rfl
    refine ih fun inner' hi => ?_
    cases hi
    exact ⟨by simp [hb, Ne.symm hc], by simpa using hh⟩

end Piece

theorem wellFormed_pieces (cs : List Char) : WellFormed (pieces cs) :=
  wellFormed_cut none cs (by simp)

namespace Piece.WellFormed

theorem isClosed_of_mem {ps : List Piece} (h : WellFormed ps) {p : Piece} (hp : p ∈ ps)
    (hu : ∀ rest, p ≠ .unclosed rest) : p.IsClosed := by
  induction h with
  | nil => cases hp
  | unclosed _ => exact absurd (List.mem_singleton.1 hp) (hu _)
  | cons hq _ ih =>
    rcases List.mem_cons.1 hp with rfl | hp
    · exact hq
    · exact ih hp

theorem of_append {xs ys : List Piece} (h : WellFormed (xs ++ ys)) :
    WellFormed xs ∧ WellFormed ys := by
  induction xs with
  | nil => exact ⟨.nil, h⟩
  | cons p xs ih =>
    rw [List.cons_append] at h
    generalize ht : xs ++ ys = zs at h ih
    cases h with
    | unclosed hr =>
      obtain ⟨rfl, rfl⟩ := List.append_eq_nil_iff.1 ht
      exact ⟨.unclosed hr, .nil⟩
    | cons hp hz =>
      obtain ⟨hx, hy⟩ := ih hz
      exact ⟨.cons hp hx, hy⟩

/-- Closed pieces can be left out and replaced by other closed pieces. -/
theorem filterMap {ps : List Piece} (h : WellFormed ps) (f : Piece → Option Piece)
    (hf : ∀ p ∈ ps, ∀ q, p.IsClosed → f p = some q → q.IsClosed)
    (hu : ∀ rest, f (.unclosed rest) = some (.unclosed rest)) : WellFormed (ps.filterMap f) := by
  induction h with
  | nil => exact .nil
  | unclosed hr =>
    rw [List.filterMap_cons_some (hu _)]
    exact .unclosed hr
  | @cons p ps hp _ ih =>
    have ht := ih fun q hq => hf q (List.mem_cons_of_mem _ hq)
    cases hq : f p with
    | none => rwa [List.filterMap_cons_none hq]
    | some q =>
      rw [List.filterMap_cons_some hq]
      exact .cons (hf p List.mem_cons_self q hp hq) ht

end Piece.WellFormed

/-- A text is cut as before when some of its pieces are taken out, if the unclosed one is not. -/
theorem pieces_filter {stays : Piece → Bool} (h : ∀ rest, stays (.unclosed rest) = true)
    (cs : List Char) :
    pieces (((pieces cs).filter stays).flatMap source) = (pieces cs).filter stays := by
  rw [pieces_flatMap_source]
  rw [← List.filterMap_eq_filter]
  refine (wellFormed_pieces cs).filterMap _ (fun p _ q hp hq => ?_) fun rest => ?_
  · rw [Option.guard_eq_some_iff] at hq
    rwa [← hq.1]
  · exact Option.guard_eq_some_iff.2 ⟨rfl, h rest⟩

theorem isInner_of_mem_pieces {cs inner : List Char} (h : .fragment inner ∈ pieces cs) :
    IsInner inner :=
  (wellFormed_pieces cs).isClosed_of_mem h (by simp)

end RaceOverlay
