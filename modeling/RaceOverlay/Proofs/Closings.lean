import RaceOverlay.Proofs.Scan
import RaceOverlay.Template.Splice

/-!
# Pairs of closing braces

Outside fragments a closing brace takes the next one as its partner, and the two show one brace. So
what pieces show depends on the pieces before them in one way only: whether a closing brace still
waits for its partner. Escaped text shows itself and leaves this as it was.
-/
namespace RaceOverlay.Reading

open Piece (source IsClosed IsInner)
open Format (escape)

section Pieces

variable (value : List Char → Option String)

/-- Whether a piece stands for something. -/
def fillable : Piece → Bool
  | .fragment inner => (value inner).isSome
  | .unclosed _ => false
  | _ => true

/-- Whether a closing brace waits for its partner after a piece. -/
def waits (waiting : Bool) (p : Piece) : Bool := p = .plain '}' && !waiting

/-- The partner of a closing brace shows nothing. -/
def shown (waiting : Bool) : Piece → List Char
  | .plain c => if c = '}' ∧ waiting then [] else [c]
  | .brace => ['{']
  | .fragment inner => ((value inner).getD "").toList
  | .unclosed _ => []

/-- What pieces show, after a closing brace that waits or after none. -/
def readOut : Bool → List Piece → List Char
  | _, [] => []
  | waiting, p :: ps => shown value waiting p ++ readOut (waits waiting p) ps

/-- Whether a text starts with an odd number of closing braces. -/
def oddClosings : List Char → Bool
  | '}' :: cs => !oddClosings cs
  | _ => false

private theorem oddClosings_of_ne {c : Char} (hc : c ≠ '}') (cs : List Char) :
    oddClosings (c :: cs) = false := by
  rw [oddClosings]
  intro cs' h
  rw [List.cons.injEq] at h
  exact hc h.1

theorem isSome_scanPieces (ps : List Piece) :
    (scanPieces value ps).isSome = ps.all (fillable value) := by
  fun_induction scanPieces value ps with
  | case1 => rfl
  | case2 rest ih => simpa [fillable] using ih
  | case3 c rest hpair ih => simpa [fillable] using ih
  | case4 rest ih => simpa [fillable] using ih
  | case5 inner rest ih =>
    rw [List.all_cons, ← ih, fillable]
    cases value inner <;> simp
  | case6 inner rest => rfl

variable {value}

theorem readOut_append (waiting : Bool) (xs ys : List Piece) :
    readOut value waiting (xs ++ ys) =
      readOut value waiting xs ++ readOut value (xs.foldl waits waiting) ys := by
  induction xs generalizing waiting with
  | nil => rfl
  | cons p xs ih => rw [List.cons_append, readOut, ih, readOut, List.foldl_cons, List.append_assoc]

theorem shown_eq {p : Piece} (hp : p ≠ .plain '}') (waiting : Bool) :
    shown value waiting p = shown value false p := by
  cases p with
  | plain c =>
    have hc : c ≠ '}' := fun he => hp (by rw [he])
    rw [shown, shown, if_neg fun h => hc h.1, if_neg fun h => hc h.1]
  | brace => rfl
  | fragment inner => rfl
  | unclosed rest => rfl

theorem waits_eq {p : Piece} (hp : p ≠ .plain '}') (waiting : Bool) : waits waiting p = false := by
  simp [waits, hp]

private theorem oddClosings_source_append {p : Piece} (hp : p ≠ .plain '}') (cs : List Char) :
    oddClosings (p.source ++ cs) = false := by
  cases p with
  | plain c => exact oddClosings_of_ne (fun he => hp (by rw [he])) cs
  | brace => exact oddClosings_of_ne (by decide) _
  | fragment inner => exact oddClosings_of_ne (by decide) _
  | unclosed rest => exact oddClosings_of_ne (by decide) _

/-- A waiting brace takes a shown one away exactly if an odd number of closing braces follows. -/
theorem readOut_false (ps : List Piece) :
    readOut value false ps =
      (if oddClosings (ps.flatMap source) then ['}'] else []) ++ readOut value true ps := by
  induction ps with
  | nil => rfl
  | cons p ps ih =>
    by_cases hp : p = .plain '}'
    · subst hp
      have hodd : oddClosings ((Piece.plain '}' :: ps).flatMap source) =
          !oddClosings (ps.flatMap source) := rfl
      have hfalse : readOut value false (.plain '}' :: ps) = '}' :: readOut value true ps := rfl
      have htrue : readOut value true (.plain '}' :: ps) = readOut value false ps := rfl
      rw [hodd, hfalse, htrue, ih]
      cases oddClosings (ps.flatMap source) <;> rfl
    · rw [List.flatMap_cons, oddClosings_source_append hp, readOut, readOut, waits_eq hp,
        waits_eq hp, shown_eq hp true]
      rfl

/-- Pieces that all stand for something show what is read off them. -/
theorem scanPieces_eq_readOut {ps : List Piece} (h : ps.all (fillable value) = true) :
    scanPieces value ps = some (readOut value false ps) := by
  fun_induction scanPieces value ps with
  | case1 => rfl
  | case2 rest ih =>
    have hr : rest.all (fillable value) = true := by simpa [fillable] using h
    rw [ih hr]
    rfl
  | case3 c rest hpair ih =>
    have hr : rest.all (fillable value) = true := by simpa [fillable] using h
    rw [ih hr, Option.map_some, readOut]
    by_cases hc : c = '}'
    · subst hc
      have hodd : oddClosings (rest.flatMap source) = false := by
        cases rest with
        | nil => rfl
        | cons q rest =>
          exact oddClosings_source_append (fun hq => hpair rest (by rw [hq]) rfl) _
      have hw : waits false (.plain '}') = true := rfl
      rw [hw, readOut_false, hodd]
      rfl
    · have hp : Piece.plain c ≠ .plain '}' := by simpa using hc
      rw [waits_eq hp, shown, if_neg fun hcw => hc hcw.1]
      rfl
  | case4 rest ih =>
    have hr : rest.all (fillable value) = true := by simpa [fillable] using h
    rw [ih hr]
    rfl
  | case5 inner rest ih =>
    rw [List.all_cons, Bool.and_eq_true] at h
    obtain ⟨text, ht⟩ := Option.isSome_iff_exists.1 h.1
    rw [ih h.2, ht, readOut, shown, ht]
    rfl
  | case6 inner rest => simp [fillable] at h

end Pieces

section Escaped

/-- The pieces of escaped text. -/
def escaped (cs : List Char) : List Piece :=
  cs.flatMap fun c =>
    if c = '{' then [.brace] else if c = '}' then [.plain '}', .plain '}'] else [.plain c]

theorem escaped_open (cs : List Char) : escaped ('{' :: cs) = .brace :: escaped cs := rfl

theorem escaped_close (cs : List Char) :
    escaped ('}' :: cs) = .plain '}' :: .plain '}' :: escaped cs := rfl

theorem escaped_plain {c : Char} (ho : c ≠ '{') (hc : c ≠ '}') (cs : List Char) :
    escaped (c :: cs) = .plain c :: escaped cs := by
  rw [escaped, List.flatMap_cons, if_neg ho, if_neg hc]
  rfl

private theorem escape_plain {c : Char} (ho : c ≠ '{') (hc : c ≠ '}') (cs : List Char) :
    escape (c :: cs) = c :: escape cs := by
  rw [escape, List.flatMap_cons, if_neg (by simp [ho, hc])]
  rfl

theorem flatMap_source_escaped (cs : List Char) : (escaped cs).flatMap source = escape cs := by
  induction cs with
  | nil => rfl
  | cons c cs ih =>
    by_cases ho : c = '{'
    · rw [ho, escaped_open, List.flatMap_cons, ih]
      rfl
    · by_cases hc : c = '}'
      · rw [hc, escaped_close, List.flatMap_cons, List.flatMap_cons, ih]
        rfl
      · rw [escaped_plain ho hc, escape_plain ho hc, List.flatMap_cons, ih]
        rfl

theorem eq_of_mem_escaped {cs : List Char} {p : Piece} (h : p ∈ escaped cs) :
    p = .brace ∨ ∃ c, c ≠ '{' ∧ p = .plain c := by
  obtain ⟨c, -, hp⟩ := List.mem_flatMap.1 h
  by_cases ho : c = '{'
  · rw [if_pos ho] at hp
    exact .inl (List.mem_singleton.1 hp)
  · by_cases hc : c = '}'
    · rw [if_neg ho, if_pos hc] at hp
      exact .inr ⟨'}', by decide, by simpa using hp⟩
    · rw [if_neg ho, if_neg hc] at hp
      exact .inr ⟨c, ho, List.mem_singleton.1 hp⟩

theorem isClosed_of_mem_escaped {cs : List Char} {p : Piece} (h : p ∈ escaped cs) :
    p.IsClosed := by
  rcases eq_of_mem_escaped h with rfl | ⟨c, hc, rfl⟩
  · trivial
  · exact hc

theorem pieces_escape_append (cs rest : List Char) :
    pieces (escape cs ++ rest) = escaped cs ++ pieces rest := by
  rw [← flatMap_source_escaped,
    pieces_flatMap_source_append fun _ hp => isClosed_of_mem_escaped hp]

variable {value : List Char → Option String}

theorem fillable_of_mem_escaped {cs : List Char} {p : Piece} (h : p ∈ escaped cs) :
    fillable value p = true := by
  rcases eq_of_mem_escaped h with rfl | ⟨c, -, rfl⟩
  · rfl
  · rfl

/-- Escaped text shows itself, also after a closing brace that waits. -/
theorem readOut_escaped (waiting : Bool) (cs : List Char) :
    readOut value waiting (escaped cs) = cs := by
  induction cs generalizing waiting with
  | nil => rfl
  | cons c cs ih =>
    by_cases ho : c = '{'
    · rw [ho, escaped_open, readOut, ih]
      rfl
    · by_cases hc : c = '}'
      · rw [hc, escaped_close, readOut, readOut, ih]
        cases waiting <;> rfl
      · rw [escaped_plain ho hc, readOut, ih, shown, if_neg fun h => hc h.1]
        rfl

/-- Only escaped text that consists of closing braces leaves a closing brace waiting. -/
theorem foldl_waits_escaped (waiting : Bool) (cs : List Char) :
    (escaped cs).foldl waits waiting = (waiting && cs.all (· = '}')) := by
  induction cs generalizing waiting with
  | nil => simp [escaped]
  | cons c cs ih =>
    by_cases ho : c = '{'
    · rw [ho, escaped_open, List.foldl_cons, ih]
      simp [waits]
    · by_cases hc : c = '}'
      · rw [hc, escaped_close, List.foldl_cons, List.foldl_cons, ih]
        simp [waits]
      · rw [escaped_plain ho hc, List.foldl_cons, ih]
        simp [waits, hc]

/-- Escaped text hides the closing braces behind it unless it consists of closing braces itself. -/
theorem oddClosings_escape_append (cs rest : List Char) :
    oddClosings (escape cs ++ rest) = (cs.all (· = '}') && oddClosings rest) := by
  rw [← flatMap_source_escaped]
  induction cs with
  | nil => simp [escaped]
  | cons c cs ih =>
    by_cases ho : c = '{'
    · rw [ho, escaped_open, List.flatMap_cons, List.append_assoc,
        oddClosings_source_append (by simp)]
      rfl
    · by_cases hc : c = '}'
      · subst hc
        rw [escaped_close, List.flatMap_cons, List.flatMap_cons]
        simpa [source, oddClosings] using ih
      · rw [escaped_plain ho hc, List.flatMap_cons, List.append_assoc,
          oddClosings_source_append (by simpa using hc)]
        simp [hc]

end Escaped

section Texts

variable (value : List Char → Option String)

/-- Whether all fragments of a text stand for something. -/
def reads (cs : List Char) : Bool := (pieces cs).all (fillable value)

theorem isSome_scan (cs : List Char) : (scan value none cs).isSome = reads value cs := by
  rw [scan_eq_scanPieces, isSome_scanPieces, reads, pieces]

variable {value}

theorem reads_source_append {p : Piece} (hp : p.IsClosed) (cs : List Char) :
    reads value (p.source ++ cs) = (fillable value p && reads value cs) := by
  rw [reads, pieces_source_append hp, List.all_cons, reads]

theorem reads_append_of_not_open {u : List Char} (hu : '{' ∉ u) (cs : List Char) :
    reads value (u ++ cs) = reads value cs := by
  induction u with
  | nil => rfl
  | cons c u ih =>
    have hc : c ≠ '{' := fun he => hu (he ▸ List.mem_cons_self)
    have hp : reads value (c :: (u ++ cs)) = reads value (u ++ cs) :=
      reads_source_append (p := .plain c) hc (u ++ cs)
    rw [List.cons_append, hp, ih fun hm => hu (List.mem_cons_of_mem _ hm)]

theorem reads_escape_append (r cs : List Char) :
    reads value (escape r ++ cs) = reads value cs := by
  rw [reads, pieces_escape_append, List.all_append,
    List.all_eq_true.2 fun _ hp => fillable_of_mem_escaped hp, Bool.true_and, reads]

theorem reads_fragment {inner : List Char} (h : IsInner inner) (cs : List Char) :
    reads value ('{' :: (inner ++ '}' :: cs)) = ((value inner).isSome && reads value cs) := by
  rw [reads, pieces_fragment h, List.all_cons, fillable, reads]

end Texts

end RaceOverlay.Reading
