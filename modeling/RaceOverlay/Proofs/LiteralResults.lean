import RaceOverlay.Proofs.Closings
import RaceOverlay.Proofs.Kept
import RaceOverlay.Proofs.Reading
import RaceOverlay.Proofs.Splicing
import RaceOverlay.Template.Render
import RaceOverlay.Token.Standing

/-!
# When results are literal

A result is meant to be literal text between two stretches of the format. Splicing and filling the
format as a whole comes to the same, with two exceptions. A closing brace before a call can become
the partner of one behind it, which shows one brace less. And a call that is written at the end of
another fragment can turn that fragment into a slot form.
-/
namespace RaceOverlay.Format

open Piece (source IsClosed IsInner WellFormed)
open Reading

section Statement

variable (lookup : Nat → Option String) (answers : List (Call × String))

/-- The stretches between the calls are filled alone, and the results stand between them. -/
def fillApart : List Char → List Piece → Option (List Char)
  | stretch, [] => (fill lookup stretch).toOption
  | stretch, p :: ps =>
    match result? answers p with
    | some result => do
      let before ← (fill lookup stretch).toOption
      let after ← fillApart [] ps
      return before ++ result.toList ++ after
    | none => fillApart (stretch ++ p.source) ps

/-- Whether all pieces but the calls can be filled as they stand in the format. -/
def filledAlone (ps : List Piece) : Bool :=
  ps.all fun p => (result? answers p).isSome || fillable (slotText? lookup) p

/-- Whether they can be filled with all that splicing puts in from there on. -/
def filledSpliced : List Piece → Bool
  | [] => true
  | p :: ps =>
    ((result? answers p).isSome ||
      (pieces (splice answers ((p :: ps).flatMap source))).head?.all
        (fillable (slotText? lookup))) && filledSpliced ps

/-- Whether a closing brace waits where a call stands and finds its partner behind the call. -/
def seam : Bool → List Piece → Bool
  | _, [] => false
  | waiting, p :: ps =>
    ((result? answers p).isSome && waiting &&
      oddClosings (splice answers ((p :: ps).flatMap source))) || seam (waits waiting p) ps

end Statement

variable {lookup : Nat → Option String} {answers : List (Call × String)}

section SlotForms

private theorem not_open_of_unsigned64? {cs : List Char} {n : Nat}
    (h : Text.unsigned64? cs = some n) : '{' ∉ cs := by
  intro hm
  rcases Text.mem_of_unsigned64? h hm with hp | hd
  · exact absurd hp (by decide)
  · exact absurd hd (by decide)

/-- A fragment that can be filled has no opening brace, so no call is written in it. -/
private theorem not_open_of_slotText? {inner : List Char}
    (h : (slotText? lookup inner).isSome = true) : '{' ∉ inner := by
  obtain ⟨text, ht⟩ := Option.isSome_iff_exists.1 h
  rcases Template.splitBar_cases inner with ⟨-, hs⟩ | ⟨primary, fallback, -, rfl, hs⟩
  · rw [slotText?_of_none lookup hs] at ht
    obtain ⟨n, hn, -⟩ := Option.bind_eq_some_iff.1 ht
    exact not_open_of_unsigned64? hn
  · by_cases hne : fallback = []
    · subst hne
      rw [slotText?_of_empty lookup hs] at ht
      obtain ⟨n, hn, -⟩ := Option.map_eq_some_iff.1 ht
      simpa using not_open_of_unsigned64? hn
    · rw [slotText?_of_some lookup hs hne] at ht
      obtain ⟨n, hn, ht⟩ := Option.bind_eq_some_iff.1 ht
      obtain ⟨m, hm, -⟩ := Option.bind_eq_some_iff.1 ht
      simp [not_open_of_unsigned64? hn, not_open_of_unsigned64? hm]

end SlotForms

section Errors

private theorem head?_splice_ne {cs : List Char} (h : cs.head? ≠ some '{') :
    (splice answers cs).head? ≠ some '{' := by
  cases cs with
  | nil =>
    rw [splice_empty]
    exact h
  | cons c cs =>
    have hc : c ≠ '{' := fun he => h (by rw [he, List.head?_cons])
    rw [splice_plain hc]
    exact h

theorem reads_unclosed (lookup : Nat → Option String) {rest : List Char} (h : IsInner rest) :
    reads (slotText? lookup) ('{' :: rest) = false ∧
      (pieces ('{' :: rest)).head?.all (fillable (slotText? lookup)) = false := by
  rw [reads, pieces_unclosed h]
  exact ⟨rfl, rfl⟩

/-- Whether a spliced fragment and the text behind it can be filled shows at the first fragment of
the spliced text. If that one is a slot form, what it takes from the text behind opens nothing. -/
theorem reads_splice_fragment (hA : Plain answers) {inner : List Char} (hi : IsInner inner)
    (hr : result? answers (.fragment inner) = none) (rest : List Char) :
    reads (slotText? lookup) (splice answers ('{' :: (inner ++ '}' :: rest))) =
      ((pieces (splice answers ('{' :: (inner ++ '}' :: rest)))).head?.all
          (fillable (slotText? lookup)) && reads (slotText? lookup) (splice answers rest)) := by
  have hd : (splice answers (inner ++ '}' :: rest)).head? ≠ some '{' :=
    head?_splice_ne (head?_append_close hi.2)
  obtain ⟨u, e, hu, he, hs⟩ := splice_to_close hA hi.1
  have hes : reads (slotText? lookup) (e ++ splice answers rest) =
      reads (slotText? lookup) (splice answers rest) := by
    rcases he with rfl | ⟨result, rfl⟩
    · exact reads_append_of_not_open (by decide) _
    · exact reads_escape_append result _
  rw [splice_fragment_of_none hA hi hr, hs]
  rw [hs] at hd
  rw [List.append_assoc] at hd ⊢
  by_cases hc : '}' ∈ u ++ (e ++ splice answers rest)
  · obtain ⟨x, y, hxy, hx⟩ := List.eq_append_cons_of_mem hc
    have hxi : IsInner x := by
      refine ⟨hx, ?_⟩
      rw [hxy] at hd
      cases x with
      | nil => simp
      | cons c x => exact hd
    have hrest : '{' ∉ x → reads (slotText? lookup) y =
        reads (slotText? lookup) (splice answers rest) := by
      intro ho
      obtain ⟨v, hv, -⟩ := exists_append_of_append_eq hu hxy
      have hou : '{' ∉ u := fun hm => ho (by rw [hv]; exact List.mem_append_left v hm)
      calc reads (slotText? lookup) y
          = reads (slotText? lookup) ((x ++ ['}']) ++ y) :=
            (reads_append_of_not_open (by simpa using ho) y).symm
        _ = reads (slotText? lookup) (u ++ (e ++ splice answers rest)) := by
            rw [hxy, List.append_assoc, List.singleton_append]
        _ = reads (slotText? lookup) (e ++ splice answers rest) :=
            reads_append_of_not_open hou _
        _ = reads (slotText? lookup) (splice answers rest) := hes
    rw [hxy, reads_fragment hxi, pieces_fragment hxi, List.head?_cons, Option.all_some, fillable]
    cases hv : (slotText? lookup x).isSome with
    | false => rfl
    | true => rw [hrest (not_open_of_slotText? hv)]
  · obtain ⟨hreads, hhead⟩ := reads_unclosed lookup ⟨hc, hd⟩
    rw [hreads, hhead, Bool.false_and]

theorem splice_source_of_not_fragment {p : Piece} (hp : ∀ inner, p ≠ .fragment inner)
    (hw : WellFormed [p]) : splice answers p.source = p.source := by
  cases hw with
  | unclosed hr => exact splice_of_not_mem (by simpa [source] using hr.1)
  | cons hc _ =>
    cases p with
    | plain c => rw [source, splice_plain hc, splice_empty]
    | brace => rw [source, splice_brace, splice_empty]
    | fragment inner => exact absurd rfl (hp inner)
    | unclosed rest => exact hc.elim

/-- A spliced format can be filled if it can be filled from the start of each piece on. -/
theorem reads_splice (hA : Plain answers) {ps : List Piece} (h : WellFormed ps) :
    reads (slotText? lookup) (splice answers (ps.flatMap source)) =
      filledSpliced lookup answers ps := by
  induction h with
  | nil =>
    rw [List.flatMap_nil, splice_empty]
    rfl
  | @unclosed rest hr =>
    have hs : splice answers ([Piece.unclosed rest].flatMap source) = '{' :: rest := by
      rw [List.flatMap_singleton]
      exact splice_source_of_not_fragment (by simp) (.unclosed hr)
    obtain ⟨hreads, hhead⟩ := reads_unclosed lookup hr
    rw [filledSpliced, hs, hreads, hhead]
    rfl
  | @cons p ps hp _ ih =>
    rw [filledSpliced, ← ih]
    cases p with
    | fragment inner =>
      rw [List.flatMap_cons, source_fragment_append]
      cases hr : result? answers (.fragment inner) with
      | some result =>
        rw [splice_fragment_of_some hA hp hr]
        exact reads_escape_append _ _
      | none => exact reads_splice_fragment hA hp hr _
    | plain c =>
      rw [List.flatMap_cons, splice_source_append hA hp,
        splice_source_of_not_fragment (by simp) (.cons hp .nil), reads_source_append hp,
        pieces_source_append hp]
      rfl
    | brace =>
      rw [List.flatMap_cons, splice_source_append hA hp,
        splice_source_of_not_fragment (by simp) (.cons hp .nil), reads_source_append hp,
        pieces_source_append hp]
      rfl
    | unclosed rest => exact hp.elim

end Errors

section Texts

/-- What the format shows when each stretch is read by itself: after a call no closing brace
waits. -/
def apart (lookup : Nat → Option String) (answers : List (Call × String)) :
    Bool → List Piece → List Char
  | _, [] => []
  | waiting, p :: ps =>
    match result? answers p with
    | some result => result.toList ++ apart lookup answers false ps
    | none => shown (slotText? lookup) waiting p ++ apart lookup answers (waits waiting p) ps

theorem toOption_fill_source {ps : List Piece} (h : WellFormed ps) :
    (fill lookup (ps.flatMap source)).toOption =
      if ps.all (fillable (slotText? lookup)) then some (readOut (slotText? lookup) false ps)
      else none := by
  rw [fill, toOption_fillPieces, pieces_flatMap_source h]
  cases hf : ps.all (fillable (slotText? lookup)) with
  | true => exact scanPieces_eq_readOut hf
  | false =>
    rw [← isSome_scanPieces, Option.isSome_eq_false_iff] at hf
    exact Option.isNone_iff_eq_none.1 hf

/-- A stretch that was read so far is read with the pieces that follow it. -/
theorem fillApart_source (lookup : Nat → Option String) (answers : List (Call × String))
    (xs ps : List Piece) (h : WellFormed (xs ++ ps)) :
    fillApart lookup answers (xs.flatMap source) ps =
      if xs.all (fillable (slotText? lookup)) && filledAlone lookup answers ps then
        some (readOut (slotText? lookup) false xs ++
          apart lookup answers (xs.foldl waits false) ps)
      else none := by
  induction ps generalizing xs with
  | nil =>
    rw [fillApart, toOption_fill_source h.of_append.1, filledAlone, List.all_nil, Bool.and_true,
      apart, List.append_nil]
  | cons p ps ih =>
    rw [fillApart, filledAlone, List.all_cons, ← filledAlone, apart]
    cases hr : result? answers p with
    | some result =>
      have hps : WellFormed ([] ++ ps) := by
        rw [List.append_cons] at h
        exact h.of_append.2
      have hafter := ih [] hps
      rw [List.flatMap_nil] at hafter
      rw [toOption_fill_source h.of_append.1, hafter]
      cases xs.all (fillable (slotText? lookup)) with
      | false => rfl
      | true =>
        cases filledAlone lookup answers ps with
        | false => rfl
        | true => simp [readOut]
    | none =>
      have hsrc : xs.flatMap source ++ p.source = (xs ++ [p]).flatMap source := by
        rw [List.flatMap_append, List.flatMap_singleton]
      dsimp only
      rw [hsrc, ih (xs ++ [p]) (by rwa [← List.append_cons]), readOut_append, List.foldl_append,
        List.all_append]
      simp [readOut, Bool.and_assoc]

/-- The pieces of a spliced format in which no call is written in another fragment. -/
def splicedPieces (answers : List (Call × String)) (ps : List Piece) : List Piece :=
  ps.flatMap fun p =>
    match result? answers p with
    | some result => escaped result.toList
    | none => [p]

theorem splicedPieces_some {p : Piece} {result : String} (h : result? answers p = some result)
    (ps : List Piece) :
    splicedPieces answers (p :: ps) = escaped result.toList ++ splicedPieces answers ps := by
  rw [splicedPieces, List.flatMap_cons, h]
  rfl

theorem splicedPieces_none {p : Piece} (h : result? answers p = none) (ps : List Piece) :
    splicedPieces answers (p :: ps) = p :: splicedPieces answers ps := by
  rw [splicedPieces, List.flatMap_cons, h]
  rfl

private theorem eq_fragment_of_result? {p : Piece} {result : String}
    (h : result? answers p = some result) : ∃ inner, p = .fragment inner := by
  cases p with
  | fragment inner => exact ⟨inner, rfl⟩
  | _ => cases h

private theorem isClosed_of_fillable {ps : List Piece} (h : WellFormed ps) {p : Piece} (hp : p ∈ ps)
    (hf : fillable (slotText? lookup) p = true) : p.IsClosed := by
  refine h.isClosed_of_mem hp fun rest he => ?_
  rw [he] at hf
  cases hf

theorem splice_source_of_not_open (hA : Plain answers) {inner : List Char} (hi : IsInner inner)
    (hr : result? answers (.fragment inner) = none) (ho : '{' ∉ inner) :
    splice answers (Piece.fragment inner).source = (Piece.fragment inner).source := by
  have hclose : '{' ∉ inner ++ ['}'] := by simpa using ho
  have hs := splice_fragment_of_none hA hi hr []
  rw [splice_of_not_open hclose] at hs
  exact hs

/-- Pieces that can be filled stay as they are. -/
theorem splice_source_of_fillable (hA : Plain answers) {p : Piece} (hp : p.IsClosed)
    (hr : result? answers p = none) (hf : fillable (slotText? lookup) p = true) :
    splice answers p.source = p.source := by
  by_cases hfragment : ∃ inner, p = .fragment inner
  · obtain ⟨inner, rfl⟩ := hfragment
    exact splice_source_of_not_open hA hp hr (not_open_of_slotText? hf)
  · exact splice_source_of_not_fragment (fun inner he => hfragment ⟨inner, he⟩) (.cons hp .nil)

theorem splice_eq_splicedPieces (hA : Plain answers) {ps : List Piece} (h : WellFormed ps)
    (hf : filledAlone lookup answers ps = true) :
    splice answers (ps.flatMap source) = (splicedPieces answers ps).flatMap source := by
  rw [splice_flatMap_source hA h, splicedPieces, List.flatMap_assoc]
  refine List.flatMap_congr fun p hp => ?_
  have hfp := List.all_eq_true.1 hf p hp
  cases hr : result? answers p with
  | some result =>
    obtain ⟨inner, rfl⟩ := eq_fragment_of_result? hr
    have hi := h.isClosed_of_mem hp (by simp)
    have hs := splice_fragment_of_some hA hi hr []
    rw [splice_empty, List.append_nil] at hs
    rw [flatMap_source_escaped]
    exact hs
  | none =>
    rw [hr] at hfp
    have hpf : fillable (slotText? lookup) p = true := by simpa using hfp
    rw [splice_source_of_fillable hA (isClosed_of_fillable h hp hpf) hr hpf,
      List.flatMap_singleton]

theorem mem_splicedPieces {ps : List Piece} (hf : filledAlone lookup answers ps = true) {q : Piece}
    (hq : q ∈ splicedPieces answers ps) :
    (∃ result : String, q ∈ escaped result.toList) ∨
      (q ∈ ps ∧ fillable (slotText? lookup) q = true) := by
  obtain ⟨p, hp, hqp⟩ := List.mem_flatMap.1 hq
  have hfp := List.all_eq_true.1 hf p hp
  cases hr : result? answers p with
  | some result =>
    rw [hr] at hqp
    exact .inl ⟨result, hqp⟩
  | none =>
    rw [hr] at hqp hfp
    obtain rfl := List.mem_singleton.1 hqp
    exact .inr ⟨hp, by simpa using hfp⟩

theorem all_fillable_splicedPieces {ps : List Piece} (hf : filledAlone lookup answers ps = true) :
    (splicedPieces answers ps).all (fillable (slotText? lookup)) = true := by
  rw [List.all_eq_true]
  intro q hq
  rcases mem_splicedPieces hf hq with ⟨result, hm⟩ | ⟨-, hfq⟩
  · exact fillable_of_mem_escaped hm
  · exact hfq

theorem isClosed_of_mem_splicedPieces {ps : List Piece} (h : WellFormed ps)
    (hf : filledAlone lookup answers ps = true) {q : Piece} (hq : q ∈ splicedPieces answers ps) :
    q.IsClosed := by
  rcases mem_splicedPieces hf hq with ⟨result, hm⟩ | ⟨hm, hfq⟩
  · exact isClosed_of_mem_escaped hm
  · exact isClosed_of_fillable h hm hfq

/-- The spliced format is cut into the pieces of the format and those of the results. -/
theorem toOption_fill_splice (hA : Plain answers) {ps : List Piece} (h : WellFormed ps)
    (hf : filledAlone lookup answers ps = true) :
    (fill lookup (splice answers (ps.flatMap source))).toOption =
      some (readOut (slotText? lookup) false (splicedPieces answers ps)) := by
  have hcut : pieces ((splicedPieces answers ps).flatMap source) = splicedPieces answers ps := by
    have hc := pieces_flatMap_source_append
      (fun _ hq => isClosed_of_mem_splicedPieces h hf hq) []
    rwa [List.append_nil, pieces_nil, List.append_nil] at hc
  rw [splice_eq_splicedPieces hA h hf, fill, toOption_fillPieces, hcut,
    scanPieces_eq_readOut (all_fillable_splicedPieces hf)]

/-- The induction is on the pieces. Only behind a call do the two readings differ in whether a
closing brace waits, and then the spliced one shows one brace less, which nothing behind makes up
for. -/
theorem readOut_splicedPieces (hA : Plain answers) (waiting : Bool) {ps : List Piece}
    (h : WellFormed ps) (hf : filledAlone lookup answers ps = true) :
    (readOut (slotText? lookup) waiting (splicedPieces answers ps)).length ≤
        (apart lookup answers waiting ps).length ∧
      (readOut (slotText? lookup) waiting (splicedPieces answers ps) =
          apart lookup answers waiting ps ↔ seam answers waiting ps = false) := by
  induction ps generalizing waiting with
  | nil => exact ⟨Nat.le_refl _, iff_of_true rfl rfl⟩
  | cons p ps ih =>
    have hps : WellFormed ps := by
      rw [← List.singleton_append] at h
      exact h.of_append.2
    have hfs : filledAlone lookup answers ps = true := by
      rw [filledAlone, List.all_cons, Bool.and_eq_true] at hf
      exact hf.2
    rw [apart, seam]
    cases hr : result? answers p with
    | none =>
      obtain ⟨hle, hiff⟩ := ih (waits waiting p) hps hfs
      rw [splicedPieces_none hr, readOut]
      dsimp only
      rw [List.length_append, List.length_append]
      refine ⟨Nat.add_le_add_left hle _, ?_⟩
      rw [List.append_cancel_left_eq, hiff, Option.isSome_none, Bool.false_and, Bool.false_and,
        Bool.false_or]
    | some result =>
      obtain ⟨inner, rfl⟩ := eq_fragment_of_result? hr
      obtain ⟨hle, hiff⟩ := ih false hps hfs
      have hinner : IsInner inner := h.isClosed_of_mem List.mem_cons_self (by simp)
      have hodd : oddClosings (splice answers ((Piece.fragment inner :: ps).flatMap source)) =
          (result.toList.all (· = '}') &&
            oddClosings ((splicedPieces answers ps).flatMap source)) := by
        rw [List.flatMap_cons, source_fragment_append, splice_fragment_of_some hA hinner hr,
          oddClosings_escape_append, splice_eq_splicedPieces hA hps hfs]
      have hfalse : readOut (slotText? lookup) false (splicedPieces answers ps) = _ :=
        readOut_false _
      rw [splicedPieces_some hr, readOut_append, readOut_escaped, foldl_waits_escaped,
        waits_eq (by simp), hodd, Option.isSome_some, Bool.true_and, ← Bool.and_assoc]
      dsimp only
      rw [List.length_append, List.length_append, List.append_cancel_left_eq]
      cases hwaiting : waiting && result.toList.all (· = '}') with
      | false =>
        rw [Bool.false_and, Bool.false_or]
        exact ⟨Nat.add_le_add_left hle _, hiff⟩
      | true =>
        cases hpair : oddClosings ((splicedPieces answers ps).flatMap source) with
        | false =>
          rw [hpair] at hfalse
          have heq : readOut (slotText? lookup) false (splicedPieces answers ps) =
              readOut (slotText? lookup) true (splicedPieces answers ps) := hfalse
          rw [Bool.and_false, Bool.false_or, ← heq]
          exact ⟨Nat.add_le_add_left hle _, hiff⟩
        | true =>
          rw [hpair] at hfalse
          have hlt : (readOut (slotText? lookup) true (splicedPieces answers ps)).length <
              (apart lookup answers false ps).length := by
            have hlen := congrArg List.length hfalse
            rw [if_pos rfl, List.length_append, List.length_singleton] at hlen
            omega
          refine ⟨by omega, iff_of_false (fun he => ?_) (by simp)⟩
          rw [he] at hlt
          exact Nat.lt_irrefl _ hlt

/-- Splicing and filling the whole format shows the results between the stretches unless a brace
finds its partner across a result, or a spliced fragment can be filled that could not be filled
before. -/
theorem fill_splice_eq_fillApart_iff (lookup : Nat → Option String) (hA : Plain answers)
    {ps : List Piece} (h : WellFormed ps) :
    (fill lookup (splice answers (ps.flatMap source))).toOption = fillApart lookup answers [] ps ↔
      (filledSpliced lookup answers ps = true →
        filledAlone lookup answers ps = true ∧ seam answers false ps = false) := by
  have hspliced : (fill lookup (splice answers (ps.flatMap source))).toOption.isSome =
      filledSpliced lookup answers ps := by
    rw [toOption_fill, isSome_scan, reads_splice hA h]
  have hapart := fillApart_source lookup answers [] ps h
  rw [List.flatMap_nil, List.all_nil, Bool.true_and] at hapart
  rw [hapart]
  cases hf : filledAlone lookup answers ps with
  | true =>
    have hfill := toOption_fill_splice hA h hf
    rw [hfill, Option.isSome_some] at hspliced
    rw [hfill, if_pos rfl, Option.some_inj, ← hspliced]
    simpa [readOut] using (readOut_splicedPieces hA false h hf).2
  | false =>
    rw [if_neg (by decide), ← hspliced]
    cases (fill lookup (splice answers (ps.flatMap source))).toOption <;> simp

theorem filledSpliced_eq_filledAlone (lookup : Nat → Option String) (hA : Plain answers)
    {ps : List Piece} (h : WellFormed ps)
    (hnested : ∀ inner, .fragment inner ∈ ps → result? answers (.fragment inner) = none →
      '{' ∉ inner) :
    filledSpliced lookup answers ps = filledAlone lookup answers ps := by
  induction h with
  | nil => rfl
  | unclosed hr =>
    rw [filledSpliced, List.flatMap_singleton,
      splice_source_of_not_fragment (by simp) (.unclosed hr), source, pieces_unclosed hr]
    rfl
  | @cons p ps hp _ ih =>
    rw [filledSpliced, filledAlone, List.all_cons, ← filledAlone,
      ih fun inner hi => hnested inner (List.mem_cons_of_mem _ hi)]
    cases hr : result? answers p with
    | some result => rfl
    | none =>
      have hsource : splice answers p.source = p.source := by
        by_cases hfragment : ∃ inner, p = .fragment inner
        · obtain ⟨inner, rfl⟩ := hfragment
          exact splice_source_of_not_open hA hp hr (hnested inner List.mem_cons_self hr)
        · exact splice_source_of_not_fragment (fun inner he => hfragment ⟨inner, he⟩)
            (.cons hp .nil)
      rw [List.flatMap_cons, splice_source_append hA hp, hsource, pieces_source_append hp]
      rfl

/-- Results are literal if no call is written in another fragment and no closing brace before a call
finds its partner behind it. -/
theorem fill_splice_eq_fillApart (lookup : Nat → Option String) (hA : Plain answers)
    {ps : List Piece} (h : WellFormed ps)
    (hnested : ∀ inner, .fragment inner ∈ ps → result? answers (.fragment inner) = none →
      '{' ∉ inner)
    (hseam : seam answers false ps = false) :
    (fill lookup (splice answers (ps.flatMap source))).toOption =
      fillApart lookup answers [] ps := by
  rw [fill_splice_eq_fillApart_iff lookup hA h, filledSpliced_eq_filledAlone lookup hA h hnested]
  exact fun hf => ⟨hf, hseam⟩

end Texts

end RaceOverlay.Format

namespace RaceOverlay.Label

open Format
open Piece (IsInner)

section Compiled

variable {F : Type} [DecidableEq F] [TokenDomain F]

theorem isInner_of_mem_calls {scripts : List String} {source : String} {r : Rounding} {u : Bool}
    {c : Call} (h : c ∈ (compile F scripts source r u).1.calls) : IsInner c.inner :=
  isInner_of_mem_pieces (of_mem_calls h).1

theorem plain_zip_calls (scripts : List String) (source : String) (r : Rounding) (u : Bool)
    (results : List String) :
    Plain ((compile F scripts source r u).1.calls.zip results) := by
  intro a ha
  exact (isInner_of_mem_calls (List.of_mem_zip ha).1).1

theorem spliced_eq (label : Label) (results : List String) :
    label.spliced results = splice (label.calls.zip results) label.format.toList := by
  rw [spliced]
  split
  · rename_i hempty
    rw [List.isEmpty_iff.1 hempty, List.zip_nil_left, splice_no_answers]
  · rfl

theorem isSome_result?_zip {calls : List Call} {results : List String}
    (hlen : results.length = calls.length) (p : Piece) :
    (result? (calls.zip results) p).isSome = true ↔ ∃ c ∈ calls, p = .fragment c.inner := by
  have hmap : (calls.zip results).map Prod.fst = calls :=
    List.map_fst_zip (Nat.le_of_eq hlen.symm)
  cases p with
  | fragment inner =>
    rw [result?, Option.isSome_map, List.find?_isSome]
    constructor
    · rintro ⟨a, ha, hi⟩
      exact ⟨a.1, (List.of_mem_zip ha).1, by rw [of_decide_eq_true hi]⟩
    · rintro ⟨c, hc, hi⟩
      rw [← hmap] at hc
      obtain ⟨a, ha, rfl⟩ := List.mem_map.1 hc
      exact ⟨a, ha, decide_eq_true (Piece.fragment.inj hi).symm⟩
  | plain c => simp [result?]
  | brace => simp [result?]
  | unclosed rest => simp [result?]

end Compiled

section Results

variable (F : Type) [DecidableEq F] [TokenDomain F]

/-- The calls that compiling recorded cut the format into stretches. Filling the spliced format
shows the filled stretches with the results between them, or fails with one of the stretches,
exactly under the following condition. If the spliced format can be filled at all, then every
stretch can be filled alone, and no closing brace before a call finds its partner behind it. -/
theorem fill_spliced_eq_fillApart_iff (scripts : List String) (source : String) (r : Rounding)
    (u : Bool) (lookup : Nat → Option String) (results : List String)
    (hlen : results.length = (compile F scripts source r u).1.calls.length) :
    let label := (compile F scripts source r u).1
    let answers := label.calls.zip results
    let ps := pieces label.format.toList
    (∀ p, (result? answers p).isSome = true ↔ ∃ c ∈ label.calls, p = .fragment c.inner) ∧
      ((fill lookup (label.spliced results)).toOption = fillApart lookup answers [] ps ↔
        (filledSpliced lookup answers ps = true →
          filledAlone lookup answers ps = true ∧ seam answers false ps = false)) := by
  intro label answers ps
  refine ⟨isSome_result?_zip hlen, ?_⟩
  have h := fill_splice_eq_fillApart_iff lookup
    (plain_zip_calls (F := F) scripts source r u results) (wellFormed_pieces label.format.toList)
  rw [source_pieces] at h
  rw [spliced_eq]
  exact h

end Results

/-- A call between a character and a fragment, with a closing brace at the end. -/
def sampleSource : String := "a\x7bscript:team:0\x7d\x7bgap|\x7d\x7d"

def sampleLabel : Label := (compile StandingField ["team"] sampleSource .full false).1

theorem fill_spliced_eq_fillApart_iff_sample :
    ["\x7b5"].length = sampleLabel.calls.length ∧
      (∀ p, (result? (sampleLabel.calls.zip ["\x7b5"]) p).isSome = true ↔
        ∃ c ∈ sampleLabel.calls, p = .fragment c.inner) ∧
      (fill (Fields.blank StandingField).slot? (sampleLabel.spliced ["\x7b5"])).toOption =
        fillApart (Fields.blank StandingField).slot? (sampleLabel.calls.zip ["\x7b5"]) []
          (pieces sampleLabel.format.toList) ∧
      (fill (Fields.blank StandingField).slot? (sampleLabel.spliced ["\x7b5"])).toOption =
        some "a\x7b5\x7d".toList := by
  have hlen : ["\x7b5"].length = sampleLabel.calls.length := by decide +kernel
  obtain ⟨hcut, hiff⟩ := fill_spliced_eq_fillApart_iff StandingField ["team"] sampleSource .full
    false (Fields.blank StandingField).slot? ["\x7b5"] hlen
  exact ⟨hlen, hcut, hiff.2 (by decide +kernel), by decide +kernel⟩

/-- An empty result between two closing braces: one of them is lost. -/
theorem fill_spliced_ne_fillApart :
    let label := (compile StandingField ["team"] "\x7d\x7bscript:team:0\x7d\x7d" .full false).1
    let lookup := (Fields.blank StandingField).slot?
    [""].length = label.calls.length ∧
      (fill lookup (label.spliced [""])).toOption = some ['\x7d'] ∧
      fillApart lookup (label.calls.zip [""]) [] (pieces label.format.toList) =
        some ['\x7d', '\x7d'] := by
  decide +kernel

/-- A call that is written in another fragment: the fragment cannot be filled, but what the result
makes of it can. -/
example :
    let label := (compile StandingField ["team"]
      "\x7b0|\x7bscript:team:0\x7d\x7d\x7bscript:team:0\x7d" .full false).1
    let lookup := (Fields.blank StandingField).slot?
    (fill lookup (label.spliced [""])).toOption = some [] ∧
      fillApart lookup (label.calls.zip [""]) [] (pieces label.format.toList) = none := by
  decide +kernel

end RaceOverlay.Label
