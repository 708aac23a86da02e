import TableScan.Predicate.Evaluate

/-!
What evaluation reads of a row. A leaf looks at one cell, and a cell that is not there is seen like a
missing one, by comparisons, by tests of the caller and by projections alike. So two rows that agree at
the columns a predicate refers to get the same verdict, calls included, whatever else they hold.
-/

namespace TableScan

namespace Row

/-- The cell at an index, missing if there is none. -/
def readOrNull (row : Row) (index : Int) : Value := (row.read? index).getD .null

/-- Rows of one key that show the same cells at the given indices. -/
structure Agrees (columns : List Int) (a b : Row) : Prop where
  key : a.key = b.key
  cells : ∀ index ∈ columns, a.readOrNull index = b.readOrNull index

variable {columns others : List Int} {a b : Row}

theorem agrees_append :
    Agrees (columns ++ others) a b ↔ Agrees columns a b ∧ Agrees others a b := by
  constructor
  · rintro ⟨hkey, hcells⟩
    obtain ⟨hcolumns, hothers⟩ := List.forall_mem_append.mp hcells
    exact ⟨⟨hkey, hcolumns⟩, hkey, hothers⟩
  · rintro ⟨⟨hkey, hcolumns⟩, -, hothers⟩
    exact ⟨hkey, List.forall_mem_append.mpr ⟨hcolumns, hothers⟩⟩

/-- A projection shows nothing but its columns. -/
theorem Agrees.project_eq {positions : List Nat} (h : Agrees (positions.map Int.ofNat) a b) :
    a.project positions = b.project positions := by
  have hcells : positions.map a.cellOrNull = positions.map b.cellOrNull :=
    List.map_congr_left fun position hposition =>
      h.cells _ (List.mem_map_of_mem hposition)
  rw [project, project, h.key, hcells]

end Row

/-- Comparing a cell that is not there is comparing a missing one. -/
theorem Value.compare?_getD (cell : Option Value) (literal : Value) :
    (cell.getD .null).compare? literal = cell.bind (Value.compare? · literal) := by
  cases cell with
  | none => exact Value.compare?_null_left literal
  | some cell => rfl

/-- A test is shown the same of a cell that is not there and of a missing one. -/
theorem CellView.show_getD (view : CellView) (requested : ColumnType) (cell : Option Value) :
    view.show requested (some (cell.getD .null)) = view.show requested cell := by
  cases cell with
  | none =>
    cases view with
    | stored => rfl
    | typed => exact congrArg (Option.getD · .null) (Value.readAs_null requested)
  | some cell => rfl

namespace Predicate

variable {row a b : Row}

theorem evaluate_comparison (column : ColumnRef) (op : Operator) (literal : Value) :
    (comparison column op literal).evaluate row =
      ⟨((row.readOrNull column.index).compare? literal).any op.accepts, []⟩ := by
  rw [evaluate, Row.readOrNull, Value.compare?_getD]

theorem evaluate_userDefined (column : ColumnRef) (view : CellView) (test : CellTest) :
    (userDefined column view test).evaluate row =
      let seen := view.show column.type (some (row.readOrNull column.index))
      ⟨test.accepts seen, [⟨test.label, seen⟩]⟩ := by
  rw [evaluate, Row.readOrNull, CellView.show_getD]

/-- Evaluation reads nothing but the referenced columns. -/
theorem evaluate_eq_of_agrees {p : Predicate} (h : a.Agrees p.referencedColumns b) :
    p.evaluate a = p.evaluate b := by
  induction p with
  | comparison column op literal =>
    rw [evaluate_comparison, evaluate_comparison, h.cells _ List.mem_cons_self]
  | userDefined column view test =>
    rw [evaluate_userDefined, evaluate_userDefined, h.cells _ List.mem_cons_self]
  | and left right ihl ihr =>
    obtain ⟨hleft, hright⟩ := Row.agrees_append.mp h
    rw [evaluate, evaluate, ihl hleft, ihr hright]
  | or left right ihl ihr =>
    obtain ⟨hleft, hright⟩ := Row.agrees_append.mp h
    rw [evaluate, evaluate, ihl hleft, ihr hright]

end Predicate

end TableScan
