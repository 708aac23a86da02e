import TableScan.ColumnType

/-!
Types of the fields of a record batch, told apart as far as loading needs. A type keeps its written
form, so that an error can show it exactly as it was spelled.
-/

namespace TableScan

inductive FieldType where
  | boolean
  | int32
  | int64
  | float64
  | utf8
  | binary
  /-- Milliseconds, with the time zone as it is written. -/
  | timestamp (zone : String)
  /-- A type without a column type. -/
  | other (spelling : String)
deriving DecidableEq

namespace FieldType

def spelling : FieldType → String
  | boolean => "Boolean"
  | int32 => "Int32"
  | int64 => "Int64"
  | float64 => "Float64"
  | utf8 => "Utf8"
  | binary => "Binary"
  | timestamp zone => "Timestamp(Millisecond, " ++ zone ++ ")"
  | other spelling => spelling

def timestampOpening : String := "Timestamp(Millisecond, "

def ofSpelling (s : String) : FieldType :=
  match s with
  | "Boolean" => boolean
  | "Int32" => int32
  | "Int64" => int64
  | "Float64" => float64
  | "Utf8" => utf8
  | "Binary" => binary
  | _ =>
    let zone := String.ofList (s.toList.drop timestampOpening.length).dropLast
    if s = (timestamp zone).spelling then timestamp zone else other s

def columnType? : FieldType → Option ColumnType
  | boolean => some .boolean
  | int32 => some .int32
  | int64 => some .int64
  | float64 => some .float64
  | utf8 => some .utf8
  | binary => some .binary
  | timestamp _ => some .timestamp
  | other _ => none

/-- Reading a spelling loses nothing of it. -/
theorem spelling_ofSpelling (s : String) : (ofSpelling s).spelling = s := by
  unfold ofSpelling
  split <;> try rfl
  simp only
  split
  · exact Eq.symm ‹_›
  · rfl

end FieldType

end TableScan
