import RaceOverlay.Text.Utf8

/-!
# Delimited tables

Records of fields between semicolons, read byte by byte. A field that starts with a quote runs to
the next single quote, and a doubled quote in it stands for one. A carriage return or a line feed
ends a record; empty lines are no records. The end of the table ends whatever is open.
-/
namespace RaceOverlay.Table

open Text (Bytes)

def delimiter : UInt8 := 0x3B

def quote : UInt8 := 0x22

def isLineEnd (b : UInt8) : Bool := b == 0x0A || b == 0x0D

inductive Place where
  /-- Before a record. -/
  | gap
  /-- Before a field. -/
  | start
  | plain
  | quoted
  /-- After a quote in a quoted field: the field is over, or the quote is half of a doubled one. -/
  | closed
  deriving DecidableEq

/-- A table in progress. All lists run from the last element to the first. -/
structure Reader where
  records : List (List Bytes)
  fields : List Bytes
  field : Bytes
  place : Place
  deriving DecidableEq

namespace Reader

def start : Reader := ⟨[], [], [], .gap⟩

def endField (r : Reader) : Reader :=
  { r with fields := r.field.reverse :: r.fields, field := [], place := .start }

def endRecord (r : Reader) : Reader :=
  ⟨(r.field.reverse :: r.fields).reverse :: r.records, [], [], .gap⟩

def copy (r : Reader) (b : UInt8) (place : Place) : Reader :=
  { r with field := b :: r.field, place }

/-- A byte that is not inside quotes. -/
def unquoted (r : Reader) (b : UInt8) : Reader :=
  if b = delimiter then r.endField
  else if isLineEnd b then r.endRecord
  else r.copy b .plain

/-- The first byte of a field. -/
def begin (r : Reader) (b : UInt8) : Reader :=
  if b = quote then { r with place := .quoted } else r.unquoted b

def step (r : Reader) (b : UInt8) : Reader :=
  match r.place with
  | .gap => if isLineEnd b then r else r.begin b
  | .start => r.begin b
  | .plain => r.unquoted b
  | .quoted => if b = quote then { r with place := .closed } else r.copy b .quoted
  | .closed => if b = quote then r.copy b .quoted else r.unquoted b

def finish (r : Reader) : List (List Bytes) :=
  match r.place with
  | .gap => r.records.reverse
  | _ => r.endRecord.records.reverse

end Reader

/-- The table without one byte order mark at its start. -/
def dropMark (table : Bytes) : Bytes :=
  if [0xEF, 0xBB, 0xBF].isPrefixOf table then table.drop 3 else table

def rawRecords (table : Bytes) : List (List Bytes) :=
  ((dropMark table).foldl Reader.step .start).finish

/-- The records of a table, if every field of every record is UTF-8. -/
def records? (table : Bytes) : Option (List (List String)) :=
  (rawRecords table).mapM fun record => record.mapM Text.ofUtf8?

end RaceOverlay.Table
