import TableScan.Value.Compare

/-!
Rows: a key that identifies the record, and its cells by position. A position past the last cell
reads like a missing cell wherever a row is projected or a predicate is evaluated.
-/

namespace TableScan

structure Row where
  key : String
  cells : List Value
deriving DecidableEq, Inhabited

namespace Row

def cell? (row : Row) (position : Nat) : Option Value := row.cells[position]?

/-- The cell at a position that may be any integer. -/
def read? (row : Row) (index : Int) : Option Value := index.toNat?.bind row.cell?

/-- The cell at a position, missing if there is none. -/
def cellOrNull (row : Row) (position : Nat) : Value := (row.cell? position).getD .null

/-- The cells at the given positions, in that order, under the same key. -/
def project (row : Row) (positions : List Nat) : Row :=
  { row with cells := positions.map row.cellOrNull }

/-- Equal keys and equal cells, where numbers are equal as numbers. -/
protected def beq (a b : Row) : Bool := a.key == b.key && a.cells == b.cells

instance : BEq Row := ⟨Row.beq⟩

@[simp] theorem project_key (row : Row) (positions : List Nat) :
    (row.project positions).key = row.key := rfl

@[simp] theorem length_project_cells (row : Row) (positions : List Nat) :
    (row.project positions).cells.length = positions.length := by
  simp [project]

theorem cell?_project (row : Row) (positions : List Nat) (i : Nat) :
    (row.project positions).cell? i = positions[i]?.map row.cellOrNull := by
  simp [project, cell?]

end Row

end TableScan
