import RaceOverlay.Table.Delimited

/-!
# Tables that are written and read back

Records with every field in quotes, under any of the line ends, are read back as they are: what is
between quotes is never taken for a delimiter or a line end, since no other character has the byte
of a quote in its UTF-8 form. Only records without fields are lost, which are written as empty
lines.
-/
namespace RaceOverlay

namespace Text

private theorem toUtf8_ofList (cs : List Char) :
    toUtf8 (String.ofList cs) = cs.flatMap String.utf8EncodeChar := by
  rw [toUtf8, String.toUTF8_eq_toByteArray, String.toByteArray_ofList, List.utf8Encode,
    List.toList_data_toByteArray]

private theorem flatMap_utf8EncodeChar (s : String) :
    s.toList.flatMap String.utf8EncodeChar = toUtf8 s := by
  rw [← toUtf8_ofList, String.ofList_toList]

/-- A byte below the range of the longer forms is a character of its own. -/
private theorem eq_of_mem_utf8EncodeChar {c : Char} {b : UInt8} (h : b ∈ String.utf8EncodeChar c)
    (hb : b.toNat < 128) : b.toNat = c.toNat := by
  unfold String.utf8EncodeChar at h
  dsimp only at h
  have hv : c.val.toNat = c.toNat := rfl
  rw [hv] at h
  generalize c.toNat = v at h
  split at h
  · rename_i hle
    rw [List.mem_singleton.1 h, UInt8.toNat_ofNat']
    omega
  · exfalso
    have hlong : ∀ x, 128 ≤ x → x < 256 → b ≠ UInt8.ofNat x := by
      rintro x hx hmax rfl
      rw [UInt8.toNat_ofNat'] at hb
      omega
    split at h
    · simp only [List.mem_cons, List.not_mem_nil, or_false] at h
      rcases h with h | h
      all_goals exact hlong _ (by omega) (by omega) h
    · split at h
      · simp only [List.mem_cons, List.not_mem_nil, or_false] at h
        rcases h with h | h | h
        all_goals exact hlong _ (by omega) (by omega) h
      · simp only [List.mem_cons, List.not_mem_nil, or_false] at h
        rcases h with h | h | h | h
        all_goals exact hlong _ (by omega) (by omega) h

end Text

namespace Table

open Text (Bytes toUtf8)

private theorem quote_not_mem_utf8EncodeChar {c : Char} (hc : c ≠ '"') :
    quote ∉ String.utf8EncodeChar c := by
  intro h
  have hv : quote.toNat = c.toNat := Text.eq_of_mem_utf8EncodeChar h (by decide)
  apply hc
  apply Char.ext
  apply UInt32.toNat_inj.1
  exact hv.symm

inductive LineEnd where
  | feed
  | carriageReturn
  | both
  deriving DecidableEq

def LineEnd.chars : LineEnd → List Char
  | .feed => ['\n']
  | .carriageReturn => ['\r']
  | .both => ['\r', '\n']

/-- A record, and how its line ends. -/
structure Line where
  record : List String
  ending : LineEnd
  deriving DecidableEq

/-- A field between quotes, with its own quotes doubled. -/
def writtenField (field : String) : List Char :=
  '"' :: field.toList.flatMap (fun c => if c = '"' then ['"', '"'] else [c]) ++ ['"']

def writtenRecord (record : List String) : List Char :=
  [';'].intercalate (record.map writtenField)

def written (lines : List Line) : String :=
  String.ofList (lines.flatMap fun l => writtenRecord l.record ++ l.ending.chars)

namespace Reader

/-- Reads on in the UTF-8 form of a text. -/
def read (r : Reader) (cs : List Char) : Reader := (cs.flatMap String.utf8EncodeChar).foldl step r

theorem read_append (r : Reader) (cs ds : List Char) : r.read (cs ++ ds) = (r.read cs).read ds := by
  rw [read, List.flatMap_append, List.foldl_append, read, read]

theorem read_cons (r : Reader) (c : Char) (cs : List Char) :
    r.read (c :: cs) = (r.read [c]).read cs := r.read_append [c] cs

/-- Inside quotes, everything but a quote is copied. -/
theorem foldl_step_quoted (records : List (List Bytes)) (fields : List Bytes) (field : Bytes)
    {bytes : Bytes} (h : quote ∉ bytes) :
    bytes.foldl step ⟨records, fields, field, .quoted⟩ =
      ⟨records, fields, bytes.reverse ++ field, .quoted⟩ := by
  induction bytes generalizing field with
  | nil => rfl
  | cons b bytes ih =>
    have hb : b ≠ quote := fun he => h (he ▸ List.mem_cons_self)
    have hstep : step ⟨records, fields, field, .quoted⟩ b =
        ⟨records, fields, b :: field, .quoted⟩ := if_neg hb
    rw [List.foldl_cons, hstep, ih _ fun hm => h (List.mem_cons_of_mem _ hm)]
    simp

/-- A doubled quote is copied as one. -/
theorem read_doubled (records : List (List Bytes)) (fields : List Bytes) (field : Bytes)
    (c : Char) :
    (⟨records, fields, field, .quoted⟩ : Reader).read (if c = '"' then ['"', '"'] else [c]) =
      ⟨records, fields, (String.utf8EncodeChar c).reverse ++ field, .quoted⟩ := by
  by_cases hc : c = '"'
  · subst hc
    rfl
  · rw [if_neg hc, read, List.flatMap_singleton]
    exact foldl_step_quoted _ _ _ (quote_not_mem_utf8EncodeChar hc)

theorem read_doubled_text (records : List (List Bytes)) (fields : List Bytes) (field : Bytes)
    (cs : List Char) :
    (⟨records, fields, field, .quoted⟩ : Reader).read
        (cs.flatMap fun c => if c = '"' then ['"', '"'] else [c]) =
      ⟨records, fields, (cs.flatMap String.utf8EncodeChar).reverse ++ field, .quoted⟩ := by
  induction cs generalizing field with
  | nil => rfl
  | cons c cs ih =>
    rw [List.flatMap_cons, read_append, read_doubled, ih, List.flatMap_cons, List.reverse_append,
      List.append_assoc]

/-- A written field is read from its first quote to its last one, at the start of a record or behind
a delimiter. -/
theorem read_writtenField {place : Place} (h : place = .gap ∨ place = .start)
    (records : List (List Bytes)) (fields : List Bytes) (field : String) :
    (⟨records, fields, [], place⟩ : Reader).read (writtenField field) =
      ⟨records, fields, (toUtf8 field).reverse, .closed⟩ := by
  have hopen : (⟨records, fields, [], place⟩ : Reader).read ['"'] =
      ⟨records, fields, [], .quoted⟩ := by
    rcases h with rfl | rfl <;> rfl
  have hbody := read_doubled_text records fields [] field.toList
  rw [Text.flatMap_utf8EncodeChar, List.append_nil] at hbody
  rw [writtenField, List.cons_append, read_cons, hopen, read_append, hbody]
  rfl

private theorem writtenRecord_singleton (field : String) :
    writtenRecord [field] = writtenField field :=
  List.intercalate_singleton

private theorem writtenRecord_cons_cons (first next : String) (later : List String) :
    writtenRecord (first :: next :: later) =
      writtenField first ++ ';' :: writtenRecord (next :: later) := by
  rw [writtenRecord, List.map_cons, List.map_cons, List.intercalate_cons_cons, List.append_assoc]
  rfl

/-- After the fields of a record, only its line end is missing. The induction is on the fields, each
of which is closed by the delimiter that follows it. -/
theorem read_writtenRecord {place : Place} (h : place = .gap ∨ place = .start)
    (records : List (List Bytes)) (fields : List Bytes) {record : List String}
    (hne : record ≠ []) :
    let r := (⟨records, fields, [], place⟩ : Reader).read (writtenRecord record)
    r.place = .closed ∧
      r.endRecord = ⟨(fields.reverse ++ record.map toUtf8) :: records, [], [], .gap⟩ := by
  intro r
  induction record generalizing place fields with
  | nil => exact absurd rfl hne
  | cons first rest ih =>
    cases rest with
    | nil =>
      have hread : r = ⟨records, fields, (toUtf8 first).reverse, .closed⟩ := by
        show Reader.read _ (writtenRecord [first]) = _
        rw [writtenRecord_singleton, read_writtenField h]
      rw [hread]
      exact ⟨rfl, by simp [endRecord]⟩
    | cons next later =>
      have hclose : (⟨records, fields, (toUtf8 first).reverse, .closed⟩ : Reader).read [';'] =
          ⟨records, toUtf8 first :: fields, [], .start⟩ := by
        show (⟨records, (toUtf8 first).reverse.reverse :: fields, [], .start⟩ : Reader) = _
        rw [List.reverse_reverse]
      have hread : r = (⟨records, toUtf8 first :: fields, [], .start⟩ : Reader).read
          (writtenRecord (next :: later)) := by
        show Reader.read _ (writtenRecord (first :: next :: later)) = _
        rw [writtenRecord_cons_cons, read_append, read_writtenField h, read_cons, hclose]
      obtain ⟨hplace, hend⟩ :=
        ih (.inr rfl) (toUtf8 first :: fields) (List.cons_ne_nil next later)
      rw [hread, hend]
      exact ⟨hplace, by simp⟩

theorem read_lineEnd {r : Reader} (h : r.place = .closed) (ending : LineEnd) :
    r.read ending.chars = r.endRecord := by
  have hend : ∀ b, isLineEnd b = true → b ≠ quote → b ≠ delimiter →
      r.step b = r.endRecord := by
    intro b hline hquote hdelimiter
    rw [step, h]
    dsimp only
    rw [if_neg hquote, unquoted, if_neg hdelimiter, if_pos hline]
  cases ending with
  | feed => exact hend 0x0A (by decide) (by decide) (by decide)
  | carriageReturn => exact hend 0x0D (by decide) (by decide) (by decide)
  | both =>
    show (r.step 0x0D).step 0x0A = _
    rw [hend 0x0D (by decide) (by decide) (by decide)]
    rfl

/-- Between records, a line adds its record, unless it is empty. -/
theorem read_line (records : List (List Bytes)) (l : Line) :
    (⟨records, [], [], .gap⟩ : Reader).read (writtenRecord l.record ++ l.ending.chars) =
      ⟨(([l.record].filter (· ≠ [])).map (·.map toUtf8)).reverse ++ records, [], [], .gap⟩ := by
  obtain ⟨record, ending⟩ := l
  rw [read_append]
  by_cases hne : record = []
  · subst hne
    cases ending <;> rfl
  · obtain ⟨hplace, hend⟩ := read_writtenRecord (.inl rfl) records [] hne
    rw [read_lineEnd hplace, hend]
    simp [hne]

theorem read_lines (records : List (List Bytes)) (lines : List Line) :
    (⟨records, [], [], .gap⟩ : Reader).read
        (lines.flatMap fun l => writtenRecord l.record ++ l.ending.chars) =
      ⟨(((lines.map (·.record)).filter (· ≠ [])).map (·.map toUtf8)).reverse ++ records, [], [],
        .gap⟩ := by
  induction lines generalizing records with
  | nil => rfl
  | cons l lines ih =>
    rw [List.flatMap_cons, read_append, read_line, ih, ← List.append_assoc, ← List.reverse_append,
      ← List.map_append, ← List.filter_append, List.map_cons, List.singleton_append]

end Reader

/-- A written table starts with a quote or with a line end, not with a byte order mark. -/
theorem dropMark_written (lines : List Line) :
    dropMark (toUtf8 (written lines)) = toUtf8 (written lines) := by
  have hfirst : ∀ (b : UInt8) (bytes : Bytes), b ≠ 0xEF → dropMark (b :: bytes) = b :: bytes := by
    intro b bytes hb
    have hmark : [0xEF, 0xBB, 0xBF].isPrefixOf (b :: bytes) = false := by
      rw [List.isPrefixOf_cons_cons, beq_false_of_ne hb.symm, Bool.false_and]
    rw [dropMark, hmark]
    rfl
  rw [written, Text.toUtf8_ofList]
  cases lines with
  | nil => rfl
  | cons l lines =>
    obtain ⟨record, ending⟩ := l
    cases record with
    | nil => cases ending <;> exact hfirst _ _ (by decide)
    | cons first rest =>
      cases rest <;> exact hfirst quote _ (by decide)

private theorem mapM_map_some {α β : Type} {f : α → β} {g : β → Option α}
    (h : ∀ x, g (f x) = some x) (xs : List α) : (xs.map f).mapM g = some xs := by
  induction xs with
  | nil => rfl
  | cons x xs ih => rw [List.map_cons, List.mapM_cons, h, ih]; rfl

/-- The records of a written table are read back in order. Records without fields are none. -/
theorem records?_written (lines : List Line) :
    records? (toUtf8 (written lines)) = some ((lines.map (·.record)).filter (· ≠ [])) := by
  have hread := Reader.read_lines [] lines
  rw [List.append_nil, Reader.read, ← Text.toUtf8_ofList, ← written] at hread
  have hraw : rawRecords (toUtf8 (written lines)) =
      ((lines.map (·.record)).filter (· ≠ [])).map (·.map toUtf8) := by
    rw [rawRecords, dropMark_written, Reader.start, hread]
    exact List.reverse_reverse _
  rw [records?, hraw]
  exact mapM_map_some (mapM_map_some Text.ofUtf8?_toUtf8) _

end Table

end RaceOverlay
