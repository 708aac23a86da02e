import TableScan.Catalog
import TableScan.Predicate

/-!
Validation of a predicate against the columns of a source, without touching a row. The leaves are
checked from left to right and the first fault is the answer.
-/

namespace TableScan

/-- A comparison that the column's declared type, or the literal, does not allow. -/
structure Mismatch where
  column : String
  index : Nat
  declared : ColumnType
  requested : ColumnType
  op : Operator
deriving DecidableEq

def Mismatch.message (m : Mismatch) : String :=
  "column '" ++ m.column ++ "' (index " ++ m.index.repr ++ ") of type " ++ m.declared.name ++
    " cannot be compared as " ++ m.requested.name ++ " using \x60" ++ m.op.text ++ "\x60"

inductive ValidationError where
  | columnOutOfRange (index : Int) (count : Nat)
  | incompatible (mismatch : Mismatch)
deriving DecidableEq

def ValidationError.message : ValidationError → String
  | columnOutOfRange index count =>
    "column index " ++ index.repr ++ " out of range for schema with " ++ count.repr ++ " columns"
  | incompatible mismatch => mismatch.message

namespace Predicate

/-- A comparison is sound when the declared type and that of the literal can both be read as the
requested type and the operator applies to the declared type. -/
def suits (declared requested : ColumnType) (op : Operator) (literal : Value) : Bool :=
  literal.type?.any (·.canReadAs requested) && declared.canReadAs requested &&
    op.supports declared

/-- Of a caller's test only the position is checked: any cell may be shown to it. -/
def validate (catalog : Catalog) : Predicate → Except ValidationError Unit
  | comparison column op literal =>
    match catalog.resolve? column.index with
    | none => .error (.columnOutOfRange column.index catalog.count)
    | some position =>
      match catalog.type? position with
      | none => .error (.columnOutOfRange column.index catalog.count)
      | some declared =>
        if suits declared column.type op literal then .ok ()
        else .error (.incompatible
          { column := (catalog.name? position).getD ""
            index := position
            declared := declared
            requested := column.type
            op := op })
  | userDefined column _ _ =>
    match catalog.resolve? column.index with
    | none => .error (.columnOutOfRange column.index catalog.count)
    | some _ => .ok ()
  | and left right => do
    left.validate catalog
    right.validate catalog
  | or left right => do
    left.validate catalog
    right.validate catalog

end Predicate

end TableScan
