import TableScan.ColumnRef
import TableScan.Operator
import TableScan.Row

/-!
Predicates: trees of tests on single cells. A leaf compares a cell with a literal or hands it to a
test of the caller; the inner nodes are conjunctions and disjunctions.
-/

namespace TableScan

/-- A caller's test of one cell. The label tells its calls from those of other tests. -/
structure CellTest where
  label : String
  accepts : Value → Bool

/-- How a caller's test is shown its cell: as stored, or read as the type the reference asks for. -/
inductive CellView where
  | stored
  | typed
deriving DecidableEq

inductive Predicate where
  | comparison (column : ColumnRef) (op : Operator) (literal : Value)
  | userDefined (column : ColumnRef) (view : CellView) (test : CellTest)
  | and (left right : Predicate)
  | or (left right : Predicate)

namespace Predicate

/-- All of the predicates must hold; they are joined from the left. Without any there is nothing
to test. -/
def conjunction : List Predicate → Option Predicate
  | [] => none
  | p :: ps => some (ps.foldl and p)

/-- One of the predicates must hold; they are joined from the left. -/
def disjunction : List Predicate → Option Predicate
  | [] => none
  | p :: ps => some (ps.foldl or p)

/-- The column positions of the leaves, from left to right and with repetitions. -/
def referencedColumns : Predicate → List Int
  | comparison column _ _ => [column.index]
  | userDefined column _ _ => [column.index]
  | and left right => left.referencedColumns ++ right.referencedColumns
  | or left right => left.referencedColumns ++ right.referencedColumns

end Predicate

end TableScan
