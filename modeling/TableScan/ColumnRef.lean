import TableScan.ColumnType

/-!
References to columns by position. Any integer can be written down; whether it names a column is
for validation to say.
-/

namespace TableScan

/-- A column position and the type its cells are to be read as. -/
structure ColumnRef where
  index : Int
  type : ColumnType
deriving DecidableEq

namespace ColumnRef

def text (c : ColumnRef) : String := "col" ++ c.index.repr

/-- The reference with its type. -/
def description (c : ColumnRef) : String :=
  "Column \x7b index: " ++ c.index.repr ++ ", data_type: " ++ c.type.title ++ " \x7d"

end ColumnRef

end TableScan
