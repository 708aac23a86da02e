import TableScan.Proofs.Faults
import TableScan.RecordBatch

/-!
How a batch is read. All columns are read at once, each by its own cursor, and every row moves all of
them by one. So the row at a position holds the cells at that position; in a well-formed batch no
column runs out before the rows do, and every array is of the type that its column declares.
-/

namespace TableScan

/-- Two lists that match a third, element for element, match each other. -/
theorem forall₂_of_both {α β γ : Type} {R : α → β → Prop} {S : α → γ → Prop} {T : β → γ → Prop}
    (h : ∀ a b c, R a b → S a c → T b c) {as : List α} {bs : List β} {cs : List γ}
    (hR : List.Forall₂ R as bs) (hS : List.Forall₂ S as cs) : List.Forall₂ T bs cs := by
  induction hR generalizing cs with
  | nil =>
    cases hS
    exact .nil
  | cons hab _ ih =>
    cases hS with
    | cons hac hrest => exact .cons (h _ _ _ hab hac) (ih hrest)

namespace RecordBatch

variable {batch : RecordBatch}

/-! ## Rows -/

/-- The rows in one go: each is read off the columns at its own position. -/
theorem readRows_eq (keys : KeySource) (missing : Value) (count position : Nat)
    (columns : List (List Value)) :
    readRows keys missing count position columns = (List.range count).mapM fun i =>
      (keys.key (position + i)).map fun key =>
        ⟨key, columns.map fun cells => cells[i]?.getD missing⟩ := by
  induction count generalizing position columns with
  | zero => rfl
  | succ count ih =>
    -- the columns of the rows to come have each been moved by one
    have hrest : ∀ i, (columns.map List.tail).map (fun cells => cells[i]?.getD missing) =
        columns.map fun cells => cells[i + 1]?.getD missing := by
      intro i
      simp [List.map_map, Function.comp_def]
    have hfirst : columns.map (·.headD missing) = columns.map fun cells => cells[0]?.getD missing :=
      List.map_congr_left fun cells _ => by cases cells <;> rfl
    rw [mapM_range_succ, readRows, ih, hfirst]
    simp only [hrest, Nat.add_right_comm position 1, Nat.add_assoc position]
    cases keys.key position with
    | error e => rfl
    | ok key => rfl

/-! ## Columns -/

theorem columnOf_eq_ok_iff {field : Field} {column : Column} :
    columnOf field = .ok column ↔
      column.name = field.name ∧ field.type.columnType? = some column.type := by
  obtain ⟨name, type⟩ := column
  unfold columnOf
  cases field.type.columnType? with
  | none => simp
  | some found => simp [eq_comm]

theorem forall₂_of_schemaOf {fields : List Field} {schema : Schema}
    (h : schemaOf fields = .ok schema) :
    List.Forall₂ (fun field column => column.name = field.name ∧
      field.type.columnType? = some column.type) fields schema.columns := by
  obtain ⟨columns, hcolumns, rfl⟩ := ok_of_map h
  exact (forall₂_of_mapM hcolumns).imp fun _ _ => columnOf_eq_ok_iff.mp

theorem columnCells_of_type {column : Column} {array : ColumnArray}
    (h : array.type.columnType? = some column.type) : columnCells column array = .ok array.cells := by
  rw [columnCells, ColumnArray.cells?, if_pos h]

namespace WellFormed

/-- Every column has an array of its type. -/
theorem suited (h : batch.WellFormed) {schema : Schema}
    (hschema : schemaOf batch.fields = .ok schema) :
    List.Forall₂ (fun column (array : ColumnArray) => array.type.columnType? = some column.type)
      schema.columns batch.columns := by
  have hmatch : List.Forall₂ Eq (batch.fields.map Field.type)
      (batch.columns.map ColumnArray.type) := by
    rw [h.types]
    exact List.forall₂_same.mpr fun _ _ => rfl
  have htypes := List.forall₂_map_right_iff.mp (List.forall₂_map_left_iff.mp hmatch)
  refine forall₂_of_both (fun field column array hcolumn harray => ?_)
    (forall₂_of_schemaOf hschema) htypes
  rw [← harray]
  exact hcolumn.2

/-- No array is refused by its column. -/
theorem read_columns (h : batch.WellFormed) {schema : Schema}
    (hschema : schemaOf batch.fields = .ok schema) :
    ((schema.columns.zip batch.columns).mapM fun entry => columnCells entry.1 entry.2) =
      .ok (batch.columns.map ColumnArray.cells) := by
  have hsuited := h.suited hschema
  generalize schema.columns = columns, batch.columns = arrays at hsuited
  induction hsuited with
  | nil => rfl
  | cons hcolumn _ ih =>
    rw [List.zip_cons_cons, List.mapM_cons, columnCells_of_type hcolumn, ih]
    rfl

/-- There is a cell at every row. -/
theorem exists_element (h : batch.WellFormed) {array : ColumnArray} (harray : array ∈ batch.columns)
    {row : Nat} (hrow : row < batch.rowCount) : ∃ element, array.elements[row]? = some element := by
  rw [← h.lengths array harray] at hrow
  exact ⟨_, List.getElem?_eq_getElem hrow⟩

end WellFormed

/-- The cells at a row of the batch. -/
def cellsAt (batch : RecordBatch) (row : Nat) : List Value :=
  batch.columns.map fun array => array.cells[row]?.getD .null

/-- The rows of a well-formed batch do not depend on what a column that has run out would give. -/
theorem WellFormed.tableWith_eq (h : batch.WellFormed) (missing : Value) (key : Option String) :
    batch.tableWith missing key =
      (schemaOf batch.fields).mapError TableError.schema >>= fun schema =>
        batch.keySource key >>= fun keys =>
          ((List.range batch.rowCount).mapM fun row =>
            (keys.key row).map fun key => ⟨key, batch.cellsAt row⟩).map fun rows =>
              ⟨schema, rows⟩ := by
  unfold tableWith
  cases hschema : schemaOf batch.fields with
  | error e => rfl
  | ok schema =>
    refine congrArg (batch.keySource key >>= ·) (funext fun keys => ?_)
    rw [h.read_columns hschema]
    have hrows : readRows keys missing batch.rowCount 0 (batch.columns.map ColumnArray.cells) =
        (List.range batch.rowCount).mapM fun row =>
          (keys.key row).map fun key => ⟨key, batch.cellsAt row⟩ := by
      rw [readRows_eq]
      refine mapM_congr fun row hrow => ?_
      have hcells : (batch.columns.map ColumnArray.cells).map (fun cells => cells[row]?.getD missing) =
          batch.cellsAt row := by
        rw [List.map_map]
        refine List.map_congr_left fun array harray => ?_
        obtain ⟨element, helement⟩ := h.exists_element harray (List.mem_range.mp hrow)
        simp [ColumnArray.cells, helement]
      rw [Nat.zero_add, hcells]
    exact congrArg (·.map fun rows => Table.mk schema rows) hrows

/-- What a batch that loads was made into. -/
theorem WellFormed.loaded (h : batch.WellFormed) {key : Option String} {table : Table}
    (hload : (batch.load key).result = .ok table) :
    schemaOf batch.fields = .ok table.schema ∧
      ∃ keys, batch.keySource key = .ok keys ∧ table.rows.length = batch.rowCount ∧
        ∀ position row, table.rows[position]? = some row →
          keys.key position = .ok row.key ∧ row.cells = batch.cellsAt position := by
  have htable : batch.tableWith .null key = .ok table := hload
  rw [h.tableWith_eq] at htable
  obtain ⟨schema, hschema, htable⟩ := ok_of_bind htable
  obtain ⟨keys, hkeys, htable⟩ := ok_of_bind htable
  obtain ⟨rows, hrows, rfl⟩ := ok_of_map htable
  have hpairs := forall₂_of_mapM hrows
  have hlength : rows.length = batch.rowCount := by
    rw [← hpairs.length_eq, List.length_range]
  refine ⟨mapError_eq_ok_iff.mp hschema, keys, hkeys, hlength, fun position row hrow => ?_⟩
  obtain ⟨hlt, rfl⟩ := List.getElem?_eq_some_iff.mp hrow
  have hread := hpairs.get (i := position) (by rwa [List.length_range, ← hlength]) hlt
  obtain ⟨key, hkey, hmade⟩ := ok_of_map hread
  rw [List.get_eq_getElem, List.getElem_range] at hkey
  rw [List.get_eq_getElem, List.get_eq_getElem, List.getElem_range] at hmade
  rw [← hmade]
  exact ⟨hkey, rfl⟩

end RecordBatch

end TableScan
