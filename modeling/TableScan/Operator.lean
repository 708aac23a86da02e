import TableScan.ColumnType

/-!
Comparison operators. An operator is the set of orderings that it accepts.
-/

namespace TableScan

inductive Operator where
  | eq
  | neq
  | lt
  | leq
  | gt
  | geq
deriving DecidableEq, Inhabited

namespace Operator

def all : List Operator := [eq, neq, lt, leq, gt, geq]

def text : Operator → String
  | eq => "="
  | neq => "!="
  | lt => "<"
  | leq => "<="
  | gt => ">"
  | geq => ">="

/-- Whether the operator tells only equal from different. -/
def isEquality : Operator → Bool
  | eq | neq => true
  | _ => false

/-- Whether columns of a type can be compared with the operator. -/
def supports (op : Operator) (t : ColumnType) : Bool := op.isEquality || t.isOrdered

def accepts : Operator → Ordering → Bool
  | eq, o => o == .eq
  | neq, o => o != .eq
  | lt, o => o == .lt
  | leq, o => o != .gt
  | gt, o => o == .gt
  | geq, o => o != .lt

/-- The operator that accepts exactly the other orderings. -/
def complement : Operator → Operator
  | eq => neq
  | neq => eq
  | lt => geq
  | leq => gt
  | gt => leq
  | geq => lt

@[simp] theorem accepts_complement (op : Operator) (o : Ordering) :
    op.complement.accepts o = !op.accepts o := by
  cases op <;> cases o <;> rfl

end Operator

end TableScan
