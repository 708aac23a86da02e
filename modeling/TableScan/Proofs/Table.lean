import TableScan.Proofs.Batch

/-!
Rows under a schema. A row fits a schema cell by cell, so what fits can be told column for column. A
table takes in a row if and only if it fits, and a batch holds only rows that fit; hence every row of a
table, however it was come by, fits the schema of the table.
-/

namespace TableScan

/-! ## Rows that fit -/

/-- Cells that the columns admit, one for each. -/
def Admitted : List Column → List Value → Prop :=
  List.Forall₂ fun column cell => column.admits cell = true

namespace Schema

variable {schema : Schema} {row : Row}

theorem fits_iff : schema.Fits row ↔ Admitted schema.columns row.cells := by
  rw [Fits, Admitted, List.forall₂_iff_zip, eq_comm (a := row.cells.length)]
  constructor
  · rintro ⟨hlength, hadmits⟩
    exact ⟨hlength, fun hmem => hadmits _ hmem⟩
  · rintro ⟨hlength, hadmits⟩
    exact ⟨hlength, fun entry hmem => hadmits hmem⟩

/-- At every column there is a cell, and the column admits it. -/
theorem Fits.cell (h : schema.Fits row) {position : Nat} {column : Column}
    (hcolumn : schema.column? position = some column) :
    ∃ cell, row.cell? position = some cell ∧ column.admits cell = true := by
  obtain ⟨hlt, rfl⟩ := List.getElem?_eq_some_iff.mp hcolumn
  have hcell : position < row.cells.length := by
    rw [h.1]
    exact hlt
  refine ⟨row.cells[position], List.getElem?_eq_getElem hcell, ?_⟩
  exact (fits_iff.mp h).get hlt hcell

end Schema

theorem Column.admits_iff {column : Column} {cell : Value} :
    column.admits cell = true ↔ cell = .null ∨ cell.type? = some column.type := by
  cases cell <;> simp [Column.admits, Value.type?]

/-! ## Pushing -/

namespace Table

variable {table : Table} {row : Row}

theorem misfit?_eq_none_iff {columns : List Column} {cells : List Value}
    (hlength : cells.length = columns.length) :
    misfit? columns cells = none ↔ Admitted columns cells := by
  induction columns generalizing cells with
  | nil =>
    obtain rfl := List.eq_nil_of_length_eq_zero hlength
    exact ⟨fun _ => .nil, fun _ => rfl⟩
  | cons column columns ih =>
    cases cells with
    | nil => cases hlength
    | cons cell cells =>
      have hrest := ih (Nat.succ.inj hlength)
      rw [Admitted, List.forall₂_cons, ← Admitted, ← hrest, misfit?, Column.admits]
      cases cell.type? with
      | none => simp
      | some actual =>
        by_cases h : actual = column.type
        · simp [h]
        · simp [h]

/-- A table takes in exactly the rows that fit its schema. -/
theorem push_eq_ok_iff {pushed : Table} :
    table.push row = .ok pushed ↔
      table.schema.Fits row ∧ pushed = { table with rows := table.rows ++ [row] } := by
  unfold push
  by_cases hlength : row.cells.length = table.schema.width
  · rw [if_neg (not_not_intro hlength), Schema.fits_iff, ← misfit?_eq_none_iff hlength]
    cases hmisfit : misfit? table.schema.columns row.cells with
    | none => simp [eq_comm]
    | some found => simp
  · rw [if_pos hlength]
    exact ⟨nofun, fun h => absurd h.1.1 hlength⟩

/-- Rows that fit can be pushed one after the other. -/
theorem push_all {table : Table} {rows : List Row} (h : ∀ row ∈ rows, table.schema.Fits row) :
    rows.foldlM push table = .ok { table with rows := table.rows ++ rows } := by
  induction rows generalizing table with
  | nil => simp [pure, Except.pure]
  | cons row rows ih =>
    obtain ⟨hrow, hrest⟩ := List.forall_mem_cons.mp h
    rw [List.foldlM_cons, push_eq_ok_iff.mpr ⟨hrow, rfl⟩]
    have hpushed := @ih { table with rows := table.rows ++ [row] } hrest
    rw [List.append_assoc] at hpushed
    exact hpushed

end Table

/-! ## Loading -/

namespace RecordBatch

variable {batch : RecordBatch} {table : Table} {key : Option String}

/-- The cells of a well-formed batch are admitted by the columns that its fields stand for. -/
theorem WellFormed.admitted (h : batch.WellFormed) {schema : Schema}
    (hschema : schemaOf batch.fields = .ok schema) (row : Nat) :
    Admitted schema.columns (batch.cellsAt row) := by
  rw [Admitted, cellsAt, List.forall₂_map_right_iff]
  refine (h.suited hschema).imp fun column array htype => ?_
  rw [Column.admits_iff, ← htype, ColumnArray.cells, List.getElem?_map]
  cases array.elements[row]? with
  | none => exact .inl rfl
  | some element => exact array.type.type?_cell element

theorem WellFormed.fits (h : batch.WellFormed) (hload : (batch.load key).result = .ok table) :
    ∀ row ∈ table.rows, table.schema.Fits row := by
  obtain ⟨hschema, keys, -, -, hrows⟩ := h.loaded hload
  intro row hrow
  obtain ⟨position, hposition⟩ := List.getElem?_of_mem hrow
  rw [Schema.fits_iff, (hrows position row hposition).2]
  exact h.admitted hschema position

end RecordBatch

/-- The tables that there are: empty ones, those that rows were pushed to, and those that hold a
batch. -/
inductive Table.Reachable : Table → Prop
  | empty (schema : Schema) : Reachable (.empty schema)
  | push {table pushed : Table} {row : Row} : Reachable table → table.push row = .ok pushed →
      Reachable pushed
  | load {batch : RecordBatch} {key : Option String} {table : Table} : batch.WellFormed →
      (batch.load key).result = .ok table → Reachable table

/-- Every row of a table fits the schema of the table. -/
theorem Table.Reachable.fits {table : Table} (h : table.Reachable) :
    ∀ row ∈ table.rows, table.schema.Fits row := by
  induction h with
  | empty schema => exact List.forall_mem_nil _
  | push _ hpush ih =>
    obtain ⟨hfits, rfl⟩ := push_eq_ok_iff.mp hpush
    rw [List.forall_mem_append, List.forall_mem_singleton]
    exact ⟨ih, hfits⟩
  | load hbatch hload => exact hbatch.fits hload

end TableScan
