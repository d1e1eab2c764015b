import RaceOverlay.Proofs.Pieces
import RaceOverlay.Template.Fill

/-!
# Reading a text by characters

A template or a format read once from the left, given what each fragment stands for. No pieces are
formed. Filling a format is this reading with the slots of its fragments looked up.
-/
namespace RaceOverlay.Reading

/-- Reads outside fragments, or after the given characters of a fragment, last one first. A fragment
that stands for nothing, or that no brace closes, makes the whole text unreadable. -/
def scan (value : List Char → Option String) :
    Option (List Char) → List Char → Option (List Char)
  | none, [] => some []
  | none, '{' :: '{' :: rest => (scan value none rest).map ('{' :: ·)
  | none, '}' :: '}' :: rest => (scan value none rest).map ('}' :: ·)
  | none, '{' :: rest => scan value (some []) rest
  | none, c :: rest => (scan value none rest).map (c :: ·)
  | some _, [] => none
  | some inner, '}' :: rest =>
    (value inner.reverse).bind fun text => (scan value none rest).map (text.toList ++ ·)
  | some inner, c :: rest => scan value (some (c :: inner)) rest

/-- The same reading of a text that is already cut. -/
def scanPieces (value : List Char → Option String) : List Piece → Option (List Char)
  | [] => some []
  | .plain '}' :: .plain '}' :: rest => (scanPieces value rest).map ('}' :: ·)
  | .plain c :: rest => (scanPieces value rest).map (c :: ·)
  | .brace :: rest => (scanPieces value rest).map ('{' :: ·)
  | .fragment inner :: rest =>
    (value inner).bind fun text => (scanPieces value rest).map (text.toList ++ ·)
  | .unclosed _ :: _ => none

variable {value : List Char → Option String}

/-- A first piece that is a closing brace is the first character. -/
private theorem eq_cons_of_cut {cs : List Char} {ps : List Piece}
    (h : Piece.cut none cs = .plain '}' :: ps) : ∃ rest, cs = '}' :: rest := by
  have hs := Piece.source_cut none cs
  rw [h] at hs
  exact ⟨ps.flatMap Piece.source, hs.symm⟩

theorem scan_eq_scanPieces (state : Option (List Char)) (cs : List Char) :
    scan value state cs = scanPieces value (Piece.cut state cs) := by
  fun_induction scan value state cs with
  | case1 => rfl
  | case2 rest ih => rw [ih]; rfl
  | case3 rest ih =>
    rw [ih, Piece.cut_plain (by decide), Piece.cut_plain (by decide)]
    rfl
  | case4 rest hd ih =>
    rw [ih, Piece.cut_open (Piece.head?_ne_of_ne_cons hd)]
  | case5 c rest hopen hclose hc ih =>
    rw [ih, Piece.cut_plain hc, scanPieces.eq_3]
    intro ps hp he
    obtain ⟨rest', hr⟩ := eq_cons_of_cut hp
    exact hclose rest' he hr
  | case6 inner => rfl
  | case7 inner rest ih =>
    rw [ih]
    rfl
  | case8 inner c rest hc ih => rw [ih, Piece.cut.eq_7 _ _ _ hc]

private theorem toOption_map {ε α β : Type} (f : α → β) (x : Except ε α) :
    (x.map f).toOption = x.toOption.map f := by
  cases x <;> rfl

theorem toOption_fillPieces (lookup : Nat → Option String) (ps : List Piece) :
    (Format.fillPieces lookup ps).toOption = scanPieces (Format.slotText? lookup) ps := by
  fun_induction Format.fillPieces lookup ps with
  | case1 => rfl
  | case2 rest ih => rw [toOption_map, ih]; rfl
  | case3 c rest hpair ih => rw [toOption_map, ih, scanPieces.eq_3 _ _ _ hpair]
  | case4 rest ih => rw [toOption_map, ih]; rfl
  | case5 inner rest text ht ih =>
    rw [toOption_map, ih, scanPieces, ht]
    rfl
  | case6 inner rest ht =>
    rw [scanPieces, ht]
    rfl
  | case7 inner rest => rfl

/-- Cutting a format and filling the pieces reads it by characters. -/
theorem toOption_fill (lookup : Nat → Option String) (cs : List Char) :
    (Format.fill lookup cs).toOption = scan (Format.slotText? lookup) none cs := by
  rw [Format.fill, toOption_fillPieces, scan_eq_scanPieces, pieces]

end RaceOverlay.Reading
