import TableScan.Predicate

/-!
Evaluation of a predicate on a row. Besides the truth value it tells which tests of the caller
were called, in order and with the cell that each of them saw: the right side of a conjunction is
left alone when the left side fails, that of a disjunction when the left side holds.
-/

namespace TableScan

/-- One call of a caller's test. -/
structure Call where
  label : String
  seen : Value
deriving DecidableEq

/-- The outcome of one evaluation. -/
structure Verdict where
  holds : Bool
  calls : List Call
deriving DecidableEq

/-- What a test is shown of a cell. A cell that is absent or cannot be read is shown as missing. -/
def CellView.show (requested : ColumnType) (cell : Option Value) : CellView → Value
  | .stored => cell.getD .null
  | .typed => (cell.bind (Value.readAs requested)).getD .null

namespace Predicate

/-- A comparison holds only if the cell and the literal have an order that the operator accepts. -/
def evaluate (row : Row) : Predicate → Verdict
  | comparison column op literal =>
    ⟨((row.read? column.index).bind (Value.compare? · literal)).any op.accepts, []⟩
  | userDefined column view test =>
    let seen := view.show column.type (row.read? column.index)
    ⟨test.accepts seen, [⟨test.label, seen⟩]⟩
  | and left right =>
    let first := left.evaluate row
    if first.holds then
      let second := right.evaluate row
      ⟨second.holds, first.calls ++ second.calls⟩
    else first
  | or left right =>
    let first := left.evaluate row
    if first.holds then first
    else
      let second := right.evaluate row
      ⟨second.holds, first.calls ++ second.calls⟩

/-- Whether the row satisfies the predicate. -/
def holds (p : Predicate) (row : Row) : Bool := (p.evaluate row).holds

/-- The calls that one evaluation on the row makes. -/
def calls (p : Predicate) (row : Row) : List Call := (p.evaluate row).calls

@[simp] theorem holds_and (p q : Predicate) (row : Row) :
    (and p q).holds row = (p.holds row && q.holds row) := by
  simp only [holds, evaluate]
  split <;> simp_all

@[simp] theorem holds_or (p q : Predicate) (row : Row) :
    (or p q).holds row = (p.holds row || q.holds row) := by
  simp only [holds, evaluate]
  split <;> simp_all

theorem calls_and (p q : Predicate) (row : Row) :
    (and p q).calls row = p.calls row ++ if p.holds row then q.calls row else [] := by
  simp only [calls, holds, evaluate]
  split <;> simp_all

theorem calls_or (p q : Predicate) (row : Row) :
    (or p q).calls row = p.calls row ++ if p.holds row then [] else q.calls row := by
  simp only [calls, holds, evaluate]
  split <;> simp_all

end Predicate

end TableScan
