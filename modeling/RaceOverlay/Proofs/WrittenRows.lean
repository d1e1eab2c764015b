import Mathlib.Data.List.Basic
import RaceOverlay.External.Rows
import RaceOverlay.Proofs.Numerals
import RaceOverlay.Proofs.WrittenTables

/-!
# Rows that are written and read back

Rows are written as records, with the id in front of the columns. Whatever the columns hold, however
many there are in a row, and whatever other records stand between the rows, the rows are read back
in order. Each of the other records is reported, unless it is too short to be a row.
-/
namespace RaceOverlay

namespace Text

private theorem trimChars_of_not_blank {cs : List Char} (h : ∀ c ∈ cs, isBlank c = false) :
    trimChars cs = cs := by
  have hdrop : ∀ {ds : List Char}, (∀ c ∈ ds, isBlank c = false) → ds.dropWhile isBlank = ds := by
    intro ds hds
    cases ds with
    | nil => rfl
    | cons d ds => exact List.dropWhile_cons_of_neg (by simp [hds d List.mem_cons_self])
  rw [trimChars, hdrop h, hdrop (by simpa using h), List.reverse_reverse]

private theorem isBlank_of_isDigit {c : Char} (h : c.isDigit = true) : isBlank c = false := by
  have hboth : (decide ('0'.val ≤ c.val) && decide (c.val ≤ '9'.val)) = true := h
  rw [Bool.and_eq_true, decide_eq_true_iff, decide_eq_true_iff, UInt32.le_iff_toNat_le,
    UInt32.le_iff_toNat_le] at hboth
  have hlow : 48 ≤ c.toNat := hboth.1
  have hhigh : c.toNat ≤ 57 := hboth.2
  unfold isBlank
  generalize c.toNat = n at hlow hhigh
  simp only [Bool.or_eq_false_iff, Bool.and_eq_false_iff, decide_eq_false_iff_not,
    beq_eq_false_iff_ne]
  omega

private theorem trimChars_decimal (n : Nat) : trimChars (decimal n) = decimal n :=
  trimChars_of_not_blank fun _ hc => isBlank_of_isDigit (isDigit_of_mem_decimal hc)

end Text

namespace External

open Text (maxSigned32 toUtf8 trimChars)

/-- A positive number of 32 signed bits, in digits that a plus may precede. -/
def IsPositive (cs : List Char) : Prop :=
  ∃ digits n, (cs = digits ∨ cs = '+' :: digits) ∧ Text.digits? digits = some n ∧
    0 < n ∧ n ≤ maxSigned32

theorem isPositive_iff {cs : List Char} :
    IsPositive cs ↔ ((Text.signed32? cs).filter (0 < ·)).isSome = true := by
  constructor
  · rintro ⟨digits, n, hcs, hread, hpositive, hfits⟩
    have hmin : Text.minSigned32 ≤ 0 := by decide
    have hbounds : Text.minSigned32 ≤ (n : Int) ∧ (n : Int) ≤ maxSigned32 := by omega
    have hvalue : Text.signed32? cs = some (n : Int) := by
      rcases hcs with rfl | rfl
      · exact Text.integer?_of_digits? hread hbounds
      · rw [Text.signed32?, Text.integer?, hread]
        exact Option.filter_some_pos (decide_eq_true hbounds)
    rw [hvalue]
    apply Option.isSome_iff_exists.2
    exact ⟨n, Option.filter_some_pos (decide_eq_true (Int.ofNat_lt.2 hpositive))⟩
  · intro h
    obtain ⟨id, hid⟩ := Option.isSome_iff_exists.1 h
    obtain ⟨hread, hpositive⟩ := Option.filter_eq_some_iff.1 hid
    rw [decide_eq_true_iff] at hpositive
    unfold Text.signed32? Text.integer? at hread
    obtain ⟨hvalue, hbounds⟩ := Option.filter_eq_some_iff.1 hread
    have hfits := (of_decide_eq_true hbounds).2
    split at hvalue
    · rename_i rest
      obtain ⟨n, hn, rfl⟩ := Option.map_eq_some_iff.1 hvalue
      exact ⟨rest, n, .inr rfl, hn, Int.ofNat_lt.1 hpositive, hfits⟩
    · -- No number behind a minus is positive.
      obtain ⟨n, hn, rfl⟩ := Option.map_eq_some_iff.1 hvalue
      exact absurd hpositive (by simp)
    · obtain ⟨n, hn, rfl⟩ := Option.map_eq_some_iff.1 hvalue
      exact ⟨cs, n, .inl rfl, hn, Int.ofNat_lt.1 hpositive, hfits⟩

instance (cs : List Char) : Decidable (IsPositive cs) := decidable_of_iff _ isPositive_iff.symm

/-- A row that a table can hold: its id is positive and fits, and it has a column. -/
structure IsRow (row : Row) : Prop where
  positive : 1 ≤ row.1
  fits : row.1 ≤ maxSigned32
  columns : row.2 ≠ []

/-- A record that is too short for a row, or whose first field is no id. -/
def HoldsNoRow (record : List String) : Prop :=
  record.length < 2 ∨ ∃ first ∈ record.head?, ¬ IsPositive (trimChars first.toList)

instance (record : List String) : Decidable (HoldsNoRow record) :=
  inferInstanceAs (Decidable (_ ∨ _))

/-- What the lines of a table are written from. -/
inductive Entry where
  | row (row : Row) (h : IsRow row)
  | other (record : List String) (h : HoldsNoRow record)

namespace Entry

def record : Entry → List String
  | .row r _ => toString r.1 :: r.2
  | .other record _ => record

def row? : Entry → Option Row
  | .row r _ => some r
  | .other _ _ => none

/-- Of the records that hold no row, the long ones are reported. -/
def report? : Entry → Option Event
  | .other (first :: _ :: _) _ => some (.rowSkipped first)
  | _ => none

end Entry

theorem rowId?_toString {id : Int} (hpositive : 1 ≤ id) (hfits : id ≤ maxSigned32) :
    rowId? (toString id) = some id := by
  obtain ⟨n, rfl⟩ := Int.eq_ofNat_of_zero_le (by omega : 0 ≤ id)
  have hread : Text.signed32? (Text.decimal n) = some (n : Int) := by
    apply Text.integer?_decimal
    have hmin : Text.minSigned32 ≤ 0 := by decide
    omega
  rw [rowId?, Text.toList_toString, if_pos (by omega), Int.toNat_natCast, Text.trimChars_decimal,
    hread]
  exact Option.filter_some_pos (decide_eq_true (by omega))

theorem read_row {row : Row} (h : IsRow row) :
    External.row? (toString row.1 :: row.2) = some row ∧
      skipped? (toString row.1 :: row.2) = none := by
  obtain ⟨id, columns⟩ := row
  obtain ⟨column, later, hcolumns⟩ := List.exists_cons_of_ne_nil h.columns
  dsimp only at hcolumns
  subst hcolumns
  have hid : rowId? (toString id) = some id := rowId?_toString h.positive h.fits
  constructor
  · rw [External.row?, hid]
    rfl
  · rw [skipped?, hid]
    rfl

theorem rowId?_eq_none {field : String} (h : ¬ IsPositive (trimChars field.toList)) :
    rowId? field = none := by
  rw [isPositive_iff, Option.not_isSome_iff_eq_none] at h
  exact h

/-- An entry is read as what it was written from. -/
theorem read_record (e : Entry) :
    External.row? e.record = e.row? ∧ skipped? e.record = e.report? := by
  cases e with
  | row row h => exact read_row h
  | other record h =>
    match record with
    | [] => exact ⟨rfl, rfl⟩
    | [_] => exact ⟨rfl, rfl⟩
    | first :: column :: later =>
      have hid : rowId? first = none := by
        rcases h with hshort | ⟨first', hfirst, hnot⟩
        · simp only [List.length_cons] at hshort
          omega
        · obtain rfl := Option.some.inj hfirst
          exact rowId?_eq_none hnot
      constructor
      · show External.row? (first :: column :: later) = none
        rw [External.row?, hid]
        rfl
      · show skipped? (first :: column :: later) = some (.rowSkipped first)
        rw [skipped?, hid]
        rfl

/-- Records are read one by one, and nothing is read from an empty one. -/
theorem filterMap_records {γ : Type} {f : List String → Option γ} {g : Entry → Option γ}
    (hempty : f [] = none) (h : ∀ e : Entry, f e.record = g e) (es : List Entry) :
    ((es.map Entry.record).filter (· ≠ [])).filterMap f = es.filterMap g := by
  rw [List.filterMap_filter, List.filterMap_map]
  apply List.filterMap_congr
  intro e _
  show (if decide (e.record ≠ []) = true then f e.record else none) = g e
  rw [← h e]
  by_cases hrecord : e.record = []
  · rw [hrecord, hempty]
    rfl
  · rw [if_pos (decide_eq_true hrecord)]

/-- The table of some entries, each in a line of its own. -/
def table (entries : List (Entry × Table.LineEnd)) : Text.Bytes :=
  toUtf8 (Table.written (entries.map fun e => ⟨e.1.record, e.2⟩))

/-- Rows that are written to a table are read back: the same ones in the same order, with all their
columns as they were. Other records in any places do not change this. -/
theorem rows?_table (entries : List (Entry × Table.LineEnd)) :
    rows? (table entries) =
      some ((entries.map (·.1)).filterMap Entry.row?,
        (entries.map (·.1)).filterMap Entry.report?) := by
  have hrecords : Table.records? (table entries) =
      some (((entries.map (·.1)).map Entry.record).filter (· ≠ [])) := by
    rw [table, Table.records?_written, List.map_map, List.map_map]
    rfl
  rw [rows?, hrecords, Option.map_some, filterMap_records rfl fun e => (read_record e).1,
    filterMap_records rfl fun e => (read_record e).2]

example :
    let entries : List (Entry × Table.LineEnd) :=
      [(.row (7, ["a;b", "", " padded "]) ⟨by decide, by decide, by decide⟩, .both),
        (.other ["-3", "negative"] (by decide), .feed),
        (.row (1, ["say \"no\"\r\n"]) ⟨by decide, by decide, by decide⟩, .carriageReturn)]
    rows? (table entries) =
      some ([(7, ["a;b", "", " padded "]), (1, ["say \"no\"\r\n"])], [.rowSkipped "-3"]) := by
  decide +kernel

end External

end RaceOverlay
