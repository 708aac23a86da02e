import TableScan.Catalog

/-!
Schemas: the columns of a table in order. A column is known by its position; its name is a second
way to find it, and of several columns with one name the first is found.
-/

namespace TableScan

structure Column where
  name : String
  type : ColumnType
deriving DecidableEq, Inhabited

structure Schema where
  columns : List Column
deriving DecidableEq, Inhabited

inductive SchemaError where
  | outOfRange (index : Int) (count : Nat)
  /-- A field of a batch whose type has no column type. -/
  | unsupportedType (field spelling : String)
deriving DecidableEq

def SchemaError.message : SchemaError → String
  | outOfRange index count =>
    "column index " ++ index.repr ++ " out of range for schema with " ++ count.repr ++ " columns"
  | unsupportedType field spelling =>
    "unsupported arrow type " ++ spelling ++ " for field '" ++ field ++ "'"

namespace Schema

def width (schema : Schema) : Nat := schema.columns.length

def column? (schema : Schema) (position : Nat) : Option Column := schema.columns[position]?

def type? (schema : Schema) (position : Nat) : Option ColumnType :=
  (schema.column? position).map Column.type

def name? (schema : Schema) (position : Nat) : Option String :=
  (schema.column? position).map Column.name

/-- The type of a column whose index may be any integer. -/
def typeOf (schema : Schema) (index : Int) : Except SchemaError ColumnType :=
  match index.toNat?.bind schema.type? with
  | some type => .ok type
  | none => .error (.outOfRange index schema.width)

/-- The position of the first column of that name. -/
def indexOf? (schema : Schema) (name : String) : Option Nat :=
  schema.columns.findIdx? fun column => column.name == name

/-- The columns at the given positions, in that order. Positions without a column are skipped. -/
def project (schema : Schema) (positions : List Nat) : Schema :=
  ⟨positions.filterMap schema.column?⟩

def catalog (schema : Schema) : Catalog :=
  ⟨schema.width, schema.type?, schema.name?⟩

end Schema

end TableScan
