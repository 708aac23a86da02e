/-!
Column types: what a column declares its cells to be, and what a reader may ask them to be read
as. Reading may widen integers and may take a timestamp as its millisecond count.
-/

namespace TableScan

inductive ColumnType where
  | boolean
  | int32
  | int64
  | float64
  | utf8
  | binary
  /-- Milliseconds since the start of 1970, UTC. -/
  | timestamp
deriving DecidableEq, Inhabited

namespace ColumnType

def all : List ColumnType := [boolean, int32, int64, float64, utf8, binary, timestamp]

def name : ColumnType → String
  | boolean => "boolean"
  | int32 => "int32"
  | int64 => "int64"
  | float64 => "float64"
  | utf8 => "utf8"
  | binary => "binary"
  | timestamp => "timestamp"

/-- The capitalised spelling used where a column reference is written out in full. -/
def title : ColumnType → String
  | boolean => "Boolean"
  | int32 => "Int32"
  | int64 => "Int64"
  | float64 => "Float64"
  | utf8 => "Utf8"
  | binary => "Binary"
  | timestamp => "Timestamp"

/-- Whether a cell declared as the first type can be read as the second. -/
def canReadAs : ColumnType → ColumnType → Bool
  | int32, int64 | int32, float64 | int64, float64 | timestamp, int64 => true
  | declared, requested => declared == requested

/-- Whether the order operators apply. Binary cells compare for equality only. -/
def isOrdered : ColumnType → Bool
  | binary => false
  | _ => true

@[simp] theorem canReadAs_self (t : ColumnType) : t.canReadAs t = true := by cases t <;> rfl

theorem mem_all (t : ColumnType) : t ∈ all := by cases t <;> decide

end ColumnType

end TableScan
