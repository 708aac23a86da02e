import TableScan.Cursor

/-!
The projection stage rearranges the cells of every row. It has no state of its own and pulls no row
ahead of its use.
-/

namespace TableScan

variable {σ : Type}

@[simp] theorem rowsIn_map (f : Row → Row) (answer : Except ScanError Row) :
    rowsIn (answer.map f) = rowsIn answer := by
  cases answer <;> rfl

/-- The rows of a cursor with the cells at the given positions. -/
def Cursor.project (c : Cursor σ) (columns : List Nat) : Cursor σ where
  hasNext := c.hasNext
  nextRow s := (c.nextRow s).map (·.map (·.project columns))
  left := c.left
  left_hasNext := c.left_hasNext
  left_nextRow s := by
    simpa [Reply.map] using c.left_nextRow s

end TableScan
