import TableScan.ColumnArray
import TableScan.Event
import TableScan.Table

/-!
Record batches: tables laid out by column. Loading a batch turns it into rows. The row keys come
from one of its text columns, or are the row numbers.
-/

namespace TableScan

structure Field where
  name : String
  type : FieldType
deriving DecidableEq

/-- A batch as it is seen through the library that holds it. The arrays stand in the order of the fields,
and a column that is asked for by name is the first one whose field has that name. -/
structure RecordBatch where
  fields : List Field
  columns : List ColumnArray
  rowCount : Nat
deriving DecidableEq

namespace RecordBatch

/-- Every field has an array, which is of its type and has one element per row. -/
structure WellFormed (batch : RecordBatch) : Prop where
  types : batch.columns.map ColumnArray.type = batch.fields.map Field.type
  lengths : ∀ array ∈ batch.columns, array.length = batch.rowCount

/-- The rows from `offset` on, as many as asked for. -/
def slice (batch : RecordBatch) (offset count : Nat) : RecordBatch :=
  { batch with
    columns := batch.columns.map (·.slice offset count)
    rowCount := count }

def columnOf (field : Field) : Except SchemaError Column :=
  match field.type.columnType? with
  | some type => .ok ⟨field.name, type⟩
  | none => .error (.unsupportedType field.name field.type.spelling)

/-- The columns that the fields stand for. The leftmost field without a column type is the error. -/
def schemaOf (fields : List Field) : Except SchemaError Schema :=
  (fields.mapM columnOf).map Schema.mk

/-- The cells of a column, whose array has to be of the type that the column declares. -/
def columnCells (column : Column) (array : ColumnArray) : Except TableError (List Value) :=
  match array.cells? column.type with
  | some cells => .ok cells
  | none => .error (.arrayMismatch column.name column.type)

/-- The elements of the first column of that name, which must hold text. -/
def keyTexts (batch : RecordBatch) (name : String) : Except TableError (List (Option String)) :=
  match (batch.fields.zip batch.columns).find? fun entry => entry.1.name == name with
  | none => .error (.unknownKeyColumn name)
  | some (_, array) =>
    match array.texts? with
    | some texts => .ok texts
    | none => .error (.invalidKeyColumn name array.type.spelling)

/-- Where the keys of the rows come from. -/
inductive KeySource where
  | rowNumber
  | column (name : String) (texts : List (Option String))

def keySource (batch : RecordBatch) : Option String → Except TableError KeySource
  | none => .ok .rowNumber
  | some name => (batch.keyTexts name).map (.column name)

def KeySource.key (keys : KeySource) (row : Nat) : Except TableError String :=
  match keys with
  | rowNumber => .ok row.repr
  | column name texts =>
    match texts[row]?.join with
    | some key => .ok key
    | none => .error (.nullKey name row)

/-- Reads so many rows, from a position on. Each takes the next cell of every column, and `missing`
from a column that has run out. -/
def readRows (keys : KeySource) (missing : Value) :
    (count position : Nat) → List (List Value) → Except TableError (List Row)
  | 0, _, _ => .ok []
  | count + 1, position, columns => do
    let key ← keys.key position
    let rest ← readRows keys missing count (position + 1) (columns.map List.tail)
    return ⟨key, columns.map (·.headD missing)⟩ :: rest

/-- The table that a batch holds. The schema is converted first, then the key column is looked up,
then the columns are read, and the rows are made of them in order. -/
def tableWith (missing : Value) (batch : RecordBatch) (keyColumn : Option String) :
    Except TableError Table := do
  let schema ← (schemaOf batch.fields).mapError TableError.schema
  let keys ← batch.keySource keyColumn
  let columns ← (schema.columns.zip batch.columns).mapM fun entry => columnCells entry.1 entry.2
  let rows ← readRows keys missing batch.rowCount 0 columns
  return ⟨schema, rows⟩

/-- Where a column runs out of cells, the rest of it is missing. -/
def toTable (batch : RecordBatch) (keyColumn : Option String) : Except TableError Table :=
  batch.tableWith .null keyColumn

/-- Loads a batch. Only a successful load is logged. -/
def load (batch : RecordBatch) (keyColumn : Option String) : Logged (Except TableError Table) :=
  let result := batch.toTable keyColumn
  { result := result
    events := match result with
      | .ok table => [.tableLoaded table.rows.length table.schema.width keyColumn]
      | .error _ => [] }

end RecordBatch

end TableScan
