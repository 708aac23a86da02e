import TableScan.Row
import TableScan.Schema

/-!
Tables: rows in insertion order under one schema. A row enters a table only if it fits the schema;
a row that does not leaves the table as it was.
-/

namespace TableScan

inductive TableError where
  | arityMismatch (key : String) (expected actual : Nat)
  | typeMismatch (key column : String) (declared actual : ColumnType)
  | unknownKeyColumn (name : String)
  /-- A key column that does not hold text. -/
  | invalidKeyColumn (name spelling : String)
  | nullKey (name : String) (row : Nat)
  /-- An array that is not of the type its column declares. -/
  | arrayMismatch (column : String) (declared : ColumnType)
  | schema (error : SchemaError)
deriving DecidableEq

def TableError.message : TableError → String
  | arityMismatch key expected actual =>
    "row '" ++ key ++ "' has " ++ actual.repr ++ " cells, schema expects " ++ expected.repr
  | typeMismatch key column declared actual =>
    "row '" ++ key ++ "' column '" ++ column ++ "' expects " ++ declared.name ++ ", got " ++
      actual.name
  | unknownKeyColumn name => "unknown key column '" ++ name ++ "'"
  | invalidKeyColumn name spelling =>
    "key column '" ++ name ++ "' must be utf8, got " ++ spelling
  | nullKey name row => "key column '" ++ name ++ "' is null at row " ++ row.repr
  | arrayMismatch column declared =>
    "array for column '" ++ column ++ "' does not match declared type " ++ declared.name
  | schema error => error.message

/-- Whether a cell may stand in a column: a missing cell anywhere, any other only under its own
type. -/
def Column.admits (column : Column) (cell : Value) : Bool :=
  cell.type?.all (· == column.type)

/-- Whether a row may stand under a schema: it has one cell per column, and each column admits its
cell. -/
def Schema.Fits (schema : Schema) (row : Row) : Prop :=
  row.cells.length = schema.width ∧
    ∀ entry ∈ schema.columns.zip row.cells, entry.1.admits entry.2 = true

structure Table where
  schema : Schema
  rows : List Row
deriving DecidableEq, Inhabited

namespace Table

def empty (schema : Schema) : Table := ⟨schema, []⟩

/-- The first cell, from the left, that its column does not admit. -/
def misfit? : List Column → List Value → Option (Column × ColumnType)
  | column :: columns, cell :: cells =>
    match cell.type? with
    | some actual => if actual = column.type then misfit? columns cells else some (column, actual)
    | none => misfit? columns cells
  | _, _ => none

/-- Appends a row. The number of cells is checked first, then their types from the left. -/
def push (table : Table) (row : Row) : Except TableError Table :=
  if row.cells.length ≠ table.schema.width then
    .error (.arityMismatch row.key table.schema.width row.cells.length)
  else
    match misfit? table.schema.columns row.cells with
    | some (column, actual) => .error (.typeMismatch row.key column.name column.type actual)
    | none => .ok { table with rows := table.rows ++ [row] }

/-- Appends a row in place. -/
def append (row : Row) : EStateM TableError Table Unit := do
  let table ← get
  match table.push row with
  | .ok pushed => set pushed
  | .error error => throw error

/-- Appends a row made of a key and its cells. -/
def appendRow (key : String) (cells : List Value) : EStateM TableError Table Unit :=
  append ⟨key, cells⟩

end Table

end TableScan
