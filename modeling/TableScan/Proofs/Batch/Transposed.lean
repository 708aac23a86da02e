import TableScan.Proofs.Batch.Keys
import TableScan.Proofs.Table

/-!
A table that was loaded is its batch turned on its side. Each cell is told by the one element that it
comes from, at the place of its column among the arrays and of its row among the elements, and so is
each key.
-/

namespace TableScan

variable {row : Nat}

/-- The cell that the element of an array at a row is shown as: what the element holds, or `null` where
there is none. -/
inductive ColumnArray.Shows (row : Nat) : ColumnArray → Value → Prop
  | missing {array : ColumnArray} : array.NullAt row → Shows row array .null
  | boolean {elements : List (Option Bool)} {flag : Bool} : elements[row]? = some (some flag) →
      Shows row ⟨.boolean, elements⟩ (.boolean flag)
  | int32 {elements : List (Option Int32)} {number : Int32} : elements[row]? = some (some number) →
      Shows row ⟨.int32, elements⟩ (.int32 number)
  | int64 {elements : List (Option Int64)} {number : Int64} : elements[row]? = some (some number) →
      Shows row ⟨.int64, elements⟩ (.int64 number)
  | float64 {elements : List (Option Binary64)} {number : Binary64} :
      elements[row]? = some (some number) → Shows row ⟨.float64, elements⟩ (.float64 number)
  | utf8 {elements : List (Option String)} {text : String} : elements[row]? = some (some text) →
      Shows row ⟨.utf8, elements⟩ (.utf8 text)
  | binary {elements : List (Option (List UInt8))} {bytes : List UInt8} :
      elements[row]? = some (some bytes) → Shows row ⟨.binary, elements⟩ (.binary bytes)
  | timestamp {zone : String} {elements : List (Option Int64)} {millis : Int64} :
      elements[row]? = some (some millis) →
      Shows row ⟨.timestamp zone, elements⟩ (.timestamp millis)

theorem ColumnArray.shows_cell {array : ColumnArray} {element : Option array.type.Element}
    {declared : ColumnType} (helement : array.elements[row]? = some element)
    (htype : array.type.columnType? = some declared) : array.Shows row (array.type.cell element) := by
  obtain ⟨type, elements⟩ := array
  cases element with
  | none =>
    have hcell : type.cell none = .null := rfl
    rw [hcell]
    exact .missing helement
  | some content =>
    cases type with
    | boolean => exact .boolean helement
    | int32 => exact .int32 helement
    | int64 => exact .int64 helement
    | float64 => exact .float64 helement
    | utf8 => exact .utf8 helement
    | binary => exact .binary helement
    | timestamp zone => exact .timestamp helement
    | other spelling => cases htype

namespace RecordBatch

variable {batch : RecordBatch} {key : Option String} {table : Table}

/-- The key of the row at a position: the text there in the first column of the name or, without a
name, the position. -/
inductive Keyed (batch : RecordBatch) (row : Nat) : Option String → String → Prop
  | numbered : Keyed batch row none row.repr
  | named {name text : String} {position : Nat} {field : Field} {texts : List (Option String)} :
      batch.FirstNamed name position field ⟨.utf8, texts⟩ → texts[row]? = some (some text) →
      Keyed batch row (some name) text

namespace WellFormed

theorem keyed (h : batch.WellFormed) {keys : KeySource} (hkeys : batch.keySource key = .ok keys)
    {text : String} (hkey : keys.key row = .ok text) : batch.Keyed row key text := by
  cases key with
  | none =>
    cases hkeys
    cases hkey
    exact .numbered
  | some name =>
    obtain ⟨texts, htexts, rfl⟩ := ok_of_map hkeys
    obtain ⟨position, field, hfirst⟩ := h.keyTexts_eq_ok_iff.mp htexts
    exact .named hfirst (key_column_eq_ok_iff.mp hkey)

/-- Arrays without a column type are not loaded. -/
theorem exists_type (h : batch.WellFormed) {schema : Schema}
    (hschema : schemaOf batch.fields = .ok schema) :
    ∀ array ∈ batch.columns, ∃ declared, array.type.columnType? = some declared := by
  have hboth : List.Forall₂ (fun (array _ : ColumnArray) =>
      ∃ declared, array.type.columnType? = some declared) batch.columns batch.columns :=
    forall₂_of_both (fun column _ _ htype _ => ⟨column.type, htype⟩)
      (h.suited hschema) (h.suited hschema)
  exact List.forall₂_same.mp hboth

theorem shows_cellsAt (h : batch.WellFormed) {schema : Schema}
    (hschema : schemaOf batch.fields = .ok schema) (hrow : row < batch.rowCount) :
    List.Forall₂ (ColumnArray.Shows row) batch.columns (batch.cellsAt row) := by
  rw [cellsAt, List.forall₂_map_right_iff, List.forall₂_same]
  intro array harray
  obtain ⟨element, helement⟩ := h.exists_element harray hrow
  obtain ⟨declared, htype⟩ := h.exists_type hschema array harray
  have hcell : array.cells[row]?.getD .null = array.type.cell element := by
    rw [ColumnArray.cells, List.getElem?_map, helement]
    rfl
  rw [hcell]
  exact ColumnArray.shows_cell helement htype

/-- The rows that a part of a well-formed batch is asked for are there. -/
theorem slice (h : batch.WellFormed) {offset count : Nat} (hcount : offset + count ≤ batch.rowCount) :
    (batch.slice offset count).WellFormed where
  types := by
    rw [RecordBatch.slice, ← h.types, List.map_map]
    rfl
  lengths := by
    intro array harray
    obtain ⟨whole, hwhole, rfl⟩ := List.mem_map.mp harray
    have hlength := h.lengths whole hwhole
    simp only [ColumnArray.slice, ColumnArray.length, List.length_take, List.length_drop,
      RecordBatch.slice] at hlength ⊢
    omega

/-- A table that was loaded has a row for each row of the batch, without columns too, and a column for
each field. The cells of a row show the elements at its place, array for array; its key comes from the
first column of the name, or is its number; and it fits the schema. What a column that has run out
would give does not matter: none does. -/
theorem load_transposes (h : batch.WellFormed) (hload : (batch.load key).result = .ok table) :
    table.rows.length = batch.rowCount ∧
      List.Forall₂ (fun field column =>
        column.name = field.name ∧ field.type.columnType? = some column.type)
        batch.fields table.schema.columns ∧
      (∀ position row, table.rows[position]? = some row →
        List.Forall₂ (ColumnArray.Shows position) batch.columns row.cells ∧
        batch.Keyed position key row.key ∧ table.schema.Fits row) ∧
      ∀ missing, batch.tableWith missing key = .ok table := by
  obtain ⟨hschema, keys, hkeys, hlength, hrows⟩ := h.loaded hload
  refine ⟨hlength, forall₂_of_schemaOf hschema, fun position row hrow => ?_, fun missing => ?_⟩
  · obtain ⟨hkey, hcells⟩ := hrows position row hrow
    have hposition : position < batch.rowCount := by
      rw [← hlength]
      exact (List.getElem?_eq_some_iff.mp hrow).1
    refine ⟨?_, h.keyed hkeys hkey, h.fits hload row (List.mem_of_getElem? hrow)⟩
    rw [hcells]
    exact h.shows_cellsAt hschema hposition
  · rw [h.tableWith_eq, ← h.tableWith_eq .null]
    exact hload

end WellFormed

/-- Two columns of one name, of which the first has no text in the first row. -/
def parcels : RecordBatch where
  fields := [⟨"id", .utf8⟩, ⟨"sent", .timestamp "None"⟩, ⟨"id", .int32⟩]
  columns := [⟨.utf8, [none, some "b", some "c", some "d"]⟩,
    ⟨.timestamp "None", ([some 10, none, some 30, some 40] : List (Option Int64))⟩,
    ⟨.int32, ([some 1, some 2, none, some 4] : List (Option Int32))⟩]
  rowCount := 4

theorem parcels_wellFormed : parcels.WellFormed := ⟨rfl, by decide⟩

/-- The part that leaves out the first row is loaded by the column that lacks a text there. A batch
without columns keeps its rows. -/
theorem WellFormed.load_transposes_sliced :
    let table : Table := ⟨⟨[⟨"id", .utf8⟩, ⟨"sent", .timestamp⟩, ⟨"id", .int32⟩]⟩,
      [⟨"b", [.utf8 "b", .null, .int32 2]⟩, ⟨"c", [.utf8 "c", .timestamp 30, .null]⟩]⟩
    ((parcels.slice 1 2).load (some "id")).result = .ok table ∧
      (parcels.slice 1 2).Keyed 1 (some "id") "c" ∧
      List.Forall₂ (ColumnArray.Shows 1) (parcels.slice 1 2).columns
        [.utf8 "c", .timestamp 30, .null] ∧
      (∀ missing, (parcels.slice 1 2).tableWith missing (some "id") = .ok table) ∧
      (⟨[], [], 2⟩ : RecordBatch).tableWith (.boolean true) none =
        .ok ⟨⟨[]⟩, [⟨"0", []⟩, ⟨"1", []⟩]⟩ := by
  intro table
  have hload : ((parcels.slice 1 2).load (some "id")).result = .ok table := by decide
  have hslice : (parcels.slice 1 2).WellFormed := parcels_wellFormed.slice (by decide)
  obtain ⟨-, -, hrows, hmissing⟩ := hslice.load_transposes hload
  obtain ⟨hshows, hkeyed, -⟩ := hrows 1 _ rfl
  have hbare : (⟨[], [], 2⟩ : RecordBatch).WellFormed := ⟨rfl, List.forall_mem_nil _⟩
  have hnumbered : ((⟨[], [], 2⟩ : RecordBatch).load none).result =
      .ok ⟨⟨[]⟩, [⟨"0", []⟩, ⟨"1", []⟩]⟩ := rfl
  obtain ⟨-, -, -, hnone⟩ := hbare.load_transposes hnumbered
  exact ⟨hload, hkeyed, hshows, hmissing, hnone (.boolean true)⟩

end RecordBatch

end TableScan
