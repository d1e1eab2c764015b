import Mathlib.Data.List.Forall2
import Mathlib.Data.String.Basic
import RaceOverlay.Report.Layout

/-!
# Rows of the console layout

The layout loses no line of a label and adds none, but for the one row of an empty text. All bars
stand at the same place, since no text has more characters than bytes. What a line is, is stated
here by the line ends that make up a text, apart from the reading of lines.
-/
namespace RaceOverlay

namespace Text

/-- A text as lines and their ends. A line ends with a line feed, and a carriage return right before
it belongs to the end. The last line may have no end; then it is not empty. -/
inductive HasLines : List Char → List (List Char) → Prop
  | empty : HasLines [] []
  | unended {line} (hfeed : '\n' ∉ line) (hne : line ≠ []) : HasLines line [line]
  | feed {line rest lines} (hfeed : '\n' ∉ line) (hreturn : line.getLast? ≠ some '\r')
    (hrest : HasLines rest lines) : HasLines (line ++ '\n' :: rest) (line :: lines)
  | returnFeed {line rest lines} (hfeed : '\n' ∉ line) (hrest : HasLines rest lines) :
    HasLines (line ++ '\r' :: '\n' :: rest) (line :: lines)

private theorem splitFeeds_of_not_mem {line : List Char} (h : '\n' ∉ line) :
    splitFeeds line = [line] := by
  induction line with
  | nil => rfl
  | cons c line ih =>
    have hc : '\n' ≠ c := List.ne_of_not_mem_cons h
    rw [splitFeeds, if_neg hc.symm, ih (List.not_mem_of_not_mem_cons h)]

private theorem splitFeeds_append {line : List Char} (h : '\n' ∉ line) (rest : List Char) :
    splitFeeds (line ++ '\n' :: rest) = line :: splitFeeds rest := by
  induction line with
  | nil => rfl
  | cons c line ih =>
    have hc : '\n' ≠ c := List.ne_of_not_mem_cons h
    rw [List.cons_append, splitFeeds, if_neg hc.symm, ih (List.not_mem_of_not_mem_cons h)]

private theorem endedLines_cons_splitFeeds (line rest : List Char) :
    endedLines (line :: splitFeeds rest) = dropReturn line :: endedLines (splitFeeds rest) := by
  obtain ⟨next, later, h⟩ := List.exists_cons_of_ne_nil (splitFeeds_ne_nil rest)
  rw [h, endedLines]
  simp

theorem HasLines.endedLines {cs : List Char} {lines : List (List Char)} (h : HasLines cs lines) :
    endedLines (splitFeeds cs) = lines := by
  induction h with
  | empty => rfl
  | unended hfeed hne =>
    rw [splitFeeds_of_not_mem hfeed, Text.endedLines]
    simp [hne]
  | feed hfeed hreturn hrest ih =>
    rw [splitFeeds_append hfeed, endedLines_cons_splitFeeds, ih, dropReturn, if_neg hreturn]
  | @returnFeed line rest lines hfeed hrest ih =>
    have hreturn : '\n' ∉ line ++ ['\r'] := by simp [hfeed]
    rw [List.append_cons, splitFeeds_append hreturn, endedLines_cons_splitFeeds, ih, dropReturn]
    simp

/-- The rest behind a line feed is shorter, so the lines are read one after the other. -/
theorem hasLines_endedLines (cs : List Char) : HasLines cs (endedLines (splitFeeds cs)) := by
  by_cases hmem : '\n' ∈ cs
  · obtain ⟨line, rest, hcs, hfeed⟩ := List.eq_append_cons_of_mem hmem
    have hshorter : rest.length < cs.length := by
      rw [hcs, List.length_append, List.length_cons]
      omega
    have ih := hasLines_endedLines rest
    rw [hcs, splitFeeds_append hfeed, endedLines_cons_splitFeeds]
    by_cases hreturn : line.getLast? = some '\r'
    · obtain ⟨short, rfl⟩ := List.getLast?_eq_some_iff.1 hreturn
      have hshort : '\n' ∉ short := fun h => hfeed (List.mem_append_left _ h)
      have hdrop : dropReturn (short ++ ['\r']) = short := by simp [dropReturn]
      rw [hdrop, List.append_assoc]
      exact .returnFeed hshort ih
    · rw [dropReturn, if_neg hreturn]
      exact .feed hfeed hreturn ih
  · rw [splitFeeds_of_not_mem hmem]
    cases cs with
    | nil => exact .empty
    | cons c cs => exact .unended hmem (List.cons_ne_nil c cs)
termination_by cs.length

/-- The lines that are read are the only ones that make up the text. -/
theorem hasLines_iff {cs : List Char} {lines : List (List Char)} :
    HasLines cs lines ↔ lines = endedLines (splitFeeds cs) :=
  ⟨fun h => h.endedLines.symm, fun h => h ▸ hasLines_endedLines cs⟩

end Text

private theorem length_le_utf8ByteSize (s : String) : s.length ≤ s.utf8ByteSize := by
  rw [← String.utf8Len_toList, ← String.length_toList]
  induction s.toList with
  | nil => exact Nat.le_refl 0
  | cons c cs ih =>
    have hc := c.utf8Size_pos
    rw [List.length_cons, String.utf8Len_cons]
    omega

private theorem toList_padRight (width : Nat) (s : String) :
    (padRight width s).toList = s.toList ++ List.replicate (width - s.length) ' ' := by
  rw [padRight, String.toList_append, String.toList_ofList]

namespace Report

/-- The greatest number of bytes that a name of the report has, and 0 if it has no labels. -/
structure IsNameWidth (r : Report) (width : Nat) : Prop where
  le : ∀ label ∈ r.labels, label.name.utf8ByteSize ≤ width
  reached : r.labels = [] ∧ width = 0 ∨ ∃ label ∈ r.labels, label.name.utf8ByteSize = width

theorem isNameWidth_nameWidth (r : Report) : r.IsNameWidth r.nameWidth := by
  have hwidth : r.nameWidth = (r.labels.map (·.name.utf8ByteSize)).max?.getD 0 := by
    rw [nameWidth, List.foldl_max]
    exact Nat.zero_max _
  cases hmax : (r.labels.map (·.name.utf8ByteSize)).max? with
  | none =>
    have hnil : r.labels = [] := List.map_eq_nil_iff.1 (List.max?_eq_none_iff.1 hmax)
    refine ⟨fun label hlabel => ?_, .inl ⟨hnil, by rw [hwidth, hmax, Option.getD_none]⟩⟩
    rw [hnil] at hlabel
    cases hlabel
  | some width =>
    obtain ⟨hmem, hle⟩ := List.max?_eq_some_iff.1 hmax
    rw [hwidth, hmax, Option.getD_some]
    exact ⟨fun label hlabel => hle _ (List.mem_map_of_mem hlabel), .inr (List.mem_map.1 hmem)⟩

/-- A row is a column of names of a fixed width, the bar, and a line with its end. -/
structure IsRow (width : Nat) (column line : List Char) (row : String) : Prop where
  toList_eq : row.toList = column ++ ([' ', '|', ' '] ++ (line ++ ['\n']))
  length_column : column.length = width

namespace IsRow

variable {width : Nat} {column line : List Char} {row : String}

theorem take (h : IsRow width column line row) : row.toList.take width = column := by
  rw [h.toList_eq, ← h.length_column, List.take_left]

theorem bar (h : IsRow width column line row) :
    (row.toList.drop width).take 3 = [' ', '|', ' '] := by
  rw [h.toList_eq, ← h.length_column, List.drop_left]
  rfl

theorem drop (h : IsRow width column line row) :
    row.toList.drop (width + 3) = line ++ ['\n'] := by
  rw [← List.drop_drop, h.toList_eq, ← h.length_column, List.drop_left]
  rfl

end IsRow

theorem isRow_row {width : Nat} {name : String} (h : name.length ≤ width) (line : List Char) :
    IsRow width (name.toList ++ List.replicate (width - name.length) ' ') line
      (row width name (String.ofList line)) where
  toList_eq := by
    rw [row, String.toList_append, String.toList_append, String.toList_append, toList_padRight,
      String.toList_ofList]
    simp
  length_column := by
    rw [List.length_append, List.length_replicate, String.length_toList]
    omega

theorem isRow_row_unnamed (width : Nat) (line : List Char) :
    IsRow width (List.replicate width ' ') line (row width "" (String.ofList line)) := by
  have hshort : "".length ≤ width := Nat.zero_le width
  exact isRow_row hshort line

/-- The lines that a text shows: a text without lines has an empty one. -/
def shownLines (lines : List (List Char)) : List (List Char) := if lines = [] then [[]] else lines

private theorem exists_rows_eq (width : Nat) (label : Report.Entry) :
    ∃ first rest,
      shownLines (Text.endedLines (Text.splitFeeds label.text.toList)) = first :: rest ∧
      rows width label = row width label.name (String.ofList first) ::
        rest.map fun line => row width "" (String.ofList line) := by
  rw [rows, Text.lines]
  cases Text.endedLines (Text.splitFeeds label.text.toList) with
  | nil => exact ⟨[], [], rfl, rfl⟩
  | cons first rest =>
    refine ⟨first, rest, if_neg (List.cons_ne_nil first rest), ?_⟩
    rw [List.map_cons]
    dsimp only
    rw [List.map_map]
    rfl

/-- The rows of a label. -/
structure ShowsLabel (width : Nat) (label : Report.Entry) (rows : List String) : Prop where
  /-- Behind the bars stand the lines of the text, each with a line feed. -/
  lines : ∃ lines, (∀ others, Text.HasLines label.text.toList others ↔ others = lines) ∧
    rows.map (·.toList.drop (width + 3)) = (shownLines lines).map (· ++ ['\n'])
  bars : ∀ row ∈ rows, (row.toList.drop width).take 3 = [' ', '|', ' ']
  /-- The name stands in the first row, with blanks up to the width. -/
  named : ∃ blanks, label.name.length + blanks = width ∧
    rows.head?.map (·.toList.take width) =
      some (label.name.toList ++ List.replicate blanks ' ')
  unnamed : ∀ row ∈ rows.tail, row.toList.take width = List.replicate width ' '

theorem showsLabel_rows {width : Nat} {label : Report.Entry} (h : label.name.length ≤ width) :
    ShowsLabel width label (rows width label) := by
  obtain ⟨first, rest, hshown, hrows⟩ := exists_rows_eq width label
  have hfirst := isRow_row h first
  rw [hrows]
  constructor
  case lines =>
    refine ⟨_, fun _ => Text.hasLines_iff, ?_⟩
    rw [hshown, List.map_cons, List.map_cons, hfirst.drop, List.map_map]
    exact congrArg _ (List.map_congr_left fun line _ => (isRow_row_unnamed width line).drop)
  case bars =>
    intro row hrow
    rcases List.mem_cons.1 hrow with rfl | hrow
    · exact hfirst.bar
    · obtain ⟨line, -, rfl⟩ := List.mem_map.1 hrow
      exact (isRow_row_unnamed width line).bar
  case named =>
    refine ⟨width - label.name.length, by omega, ?_⟩
    rw [List.head?_cons, Option.map_some, hfirst.take]
  case unnamed =>
    intro row hrow
    obtain ⟨line, -, rfl⟩ := List.mem_map.1 hrow
    exact (isRow_row_unnamed width line).take

/-- The layout is the rows of the labels one after the other, where the column of names is as wide
as the greatest name has bytes. -/
theorem layout_shows_labels (r : Report) :
    r.IsNameWidth r.nameWidth ∧ ∃ rowsOfLabels : List (List String),
      List.Forall₂ (ShowsLabel r.nameWidth) r.labels rowsOfLabels ∧
        r.layout = String.join rowsOfLabels.flatten := by
  have hwidth := r.isNameWidth_nameWidth
  refine ⟨hwidth, r.labels.map (rows r.nameWidth), ?_, ?_⟩
  · refine List.forall₂_map_right_iff.2 (List.forall₂_same.2 fun label hlabel => ?_)
    exact showsLabel_rows ((length_le_utf8ByteSize label.name).trans (hwidth.le label hlabel))
  · rw [layout, List.flatMap_def]

example :
    layout ⟨1, 0, [⟨"é", "a\r\n\nb\n"⟩, ⟨"p", ""⟩], ⟨0, 0⟩⟩ =
      "é  | a\n   | \n   | b\np  | \n" := by
  decide

end Report

end RaceOverlay
