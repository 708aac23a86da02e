import TableScan.Predicate.Evaluate
import TableScan.Proofs.Predicate.Leaves
import TableScan.Proofs.Table
import TableScan.Proofs.Value

/-!
Comparisons on rows that fit. What validation asks of a comparison, what a table asks of its rows and
what two values need to have an order are told apart in three places. Here they are put together: a
valid comparison finds its cell, and finds an order unless the cell is missing or a NaN is involved.
-/

namespace TableScan

theorem Row.read?_of_nonneg (row : Row) {index : Int} (h : 0 ≤ index) :
    row.read? index = row.cell? index.toNat := by
  obtain ⟨position, rfl⟩ := Int.eq_ofNat_of_zero_le h
  rfl

/-- Where a column is declared, a row that fits has a cell: a missing one or one of the declared
type. -/
theorem Schema.Fits.read {schema : Schema} {row : Row} (h : schema.Fits row) {index : Int}
    {declared : ColumnType} (hdeclared : schema.catalog.declared? index = some declared) :
    index < row.cells.length ∧
      ∃ cell, row.read? index = some cell ∧ (cell = .null ∨ cell.type? = some declared) := by
  obtain ⟨hnonneg, hlt⟩ := Catalog.names_of_declared? hdeclared
  rw [Catalog.declared?_of_names ⟨hnonneg, hlt⟩] at hdeclared
  obtain ⟨column, hcolumn, rfl⟩ := Option.map_eq_some_iff.mp hdeclared
  obtain ⟨cell, hcell, hadmits⟩ := h.cell hcolumn
  refine ⟨?_, cell, ?_, Column.admits_iff.mp hadmits⟩
  · rw [h.1]
    exact hlt
  · rw [row.read?_of_nonneg hnonneg, hcell]

/-- Binary cells are compared for equality only. -/
theorem Operator.eq_or_neq_of_supports {op : Operator} (h : op.supports .binary = true) :
    op = .eq ∨ op = .neq := by
  cases op with
  | eq => exact .inl rfl
  | neq => exact .inr rfl
  | _ => cases h

namespace Predicate

variable {column : ColumnRef} {op : Operator} {literal cell : Value} {row : Row}

/-- A cell of the declared type and a literal that suits it can both be read as the type asked for,
so they have an order. -/
theorem compare?_of_suits {declared requested : ColumnType}
    (h : suits declared requested op literal = true)
    (hcell : cell = .null ∨ cell.type? = some declared) :
    cell.compare? literal = none ↔
      cell = .null ∨ cell.isNaN = true ∨ literal.isNaN = true := by
  obtain ⟨⟨type, htype, hliteral⟩, hdeclared, -⟩ := suits_iff.mp h
  rcases hcell with rfl | hcell
  · exact iff_of_true (Value.compare?_null_left literal) (.inl rfl)
  · have hnull : cell ≠ .null := by
      rintro rfl
      cases hcell
    rw [or_iff_right hnull]
    exact Value.compare?_eq_none_iff (Value.readAs_isSome hcell hdeclared)
      (Value.readAs_isSome htype hliteral)

theorem holds_comparison (hcell : row.read? column.index = some cell) :
    (comparison column op literal).holds row = (cell.compare? literal).any op.accepts := by
  rw [holds, evaluate, hcell, Option.bind_some]

/-- Where there is an order, exactly one of two complementary operators accepts it. -/
theorem holds_complement {order : Ordering} (hcell : row.read? column.index = some cell)
    (horder : cell.compare? literal = some order) :
    (comparison column op.complement literal).holds row =
      !(comparison column op literal).holds row := by
  rw [holds_comparison hcell, holds_comparison hcell, horder, Option.any_some, Option.any_some,
    Operator.accepts_complement]

end Predicate

/-- On the rows of a table, a comparison of a valid predicate is about a cell of the row, and has an
order to judge unless the cell is missing or a NaN is involved. It does not ask for the order of binary
cells. With the complementary operator it has the opposite outcome. -/
theorem Table.Reachable.comparison_sound {table : Table} (h : table.Reachable) {p : Predicate}
    (hvalid : p.validate table.schema.catalog = .ok ()) {column : ColumnRef} {op : Operator}
    {literal : Value} (hleaf : .comparison column op literal ∈ p.leaves) {row : Row}
    (hrow : row ∈ table.rows) :
    0 ≤ column.index ∧ column.index < row.cells.length ∧
      ∃ cell, row.read? column.index = some cell ∧
        (cell.compare? literal = none ↔
          cell = .null ∨ cell.isNaN = true ∨ literal.isNaN = true) ∧
        (cell.type? = some .binary → op = .eq ∨ op = .neq) ∧
        (cell ≠ .null → cell.isNaN = false → literal.isNaN = false →
          (Predicate.comparison column op.complement literal).holds row =
            !(Predicate.comparison column op literal).holds row) := by
  have hleaves := ((p.checks_validate table.schema.catalog).ok_iff.mp hvalid).1
  obtain ⟨declared, hdeclared, hsuits⟩ := hleaves _ hleaf
  obtain ⟨hlt, cell, hcell, htype⟩ := (h.fits row hrow).read hdeclared
  have horder := Predicate.compare?_of_suits hsuits htype
  refine ⟨(Catalog.names_of_declared? hdeclared).1, hlt, cell, hcell, horder, ?_, ?_⟩
  · intro hbinary
    rcases htype with rfl | htype
    · cases hbinary
    · cases htype.symm.trans hbinary
      exact Operator.eq_or_neq_of_supports (Predicate.suits_iff.mp hsuits).2.2
  · intro hnull hnan hliteral
    have hsome : cell.compare? literal ≠ none := by
      rw [Ne, horder]
      simp [hnull, hnan, hliteral]
    obtain ⟨order, hcompare⟩ := Option.ne_none_iff_exists'.mp hsome
    exact Predicate.holds_complement hcell hcompare

/-- A timestamp is read as its count next to an integer, and an integer as a float next to a float. -/
theorem Table.Reachable.comparison_sound_widened :
    let schema : Schema := ⟨[⟨"at", .timestamp⟩, ⟨"size", .int32⟩]⟩
    let row : Row := ⟨"a", [.timestamp 3, .null]⟩
    let p : Predicate := .and (.comparison ⟨0, .int64⟩ .lt (.int32 5))
      (.comparison ⟨1, .float64⟩ .geq (.float64 .nan))
    ∃ table, (Table.empty schema).push row = .ok table ∧
      p.validate table.schema.catalog = .ok () ∧
      (Predicate.comparison ⟨0, .int64⟩ .geq (.int32 5)).holds row =
        !(Predicate.comparison ⟨0, .int64⟩ .lt (.int32 5)).holds row ∧
      ∃ cell, row.read? 1 = some cell ∧ cell.compare? (.float64 .nan) = none := by
  intro schema row p
  have hpush : (Table.empty schema).push row = .ok ⟨schema, [row]⟩ := rfl
  have htable : Table.Reachable ⟨schema, [row]⟩ := .push (.empty schema) hpush
  have hvalid : p.validate schema.catalog = .ok () := rfl
  have hrow : row ∈ [row] := .head _
  have hcount : .comparison ⟨0, .int64⟩ .lt (.int32 5) ∈ p.leaves := .head _
  have hratio : .comparison ⟨1, .float64⟩ .geq (.float64 .nan) ∈ p.leaves := .tail _ (.head _)
  refine ⟨_, hpush, hvalid, ?_, ?_⟩
  · obtain ⟨-, -, cell, hcell, -, -, hopposite⟩ := htable.comparison_sound hvalid hcount hrow
    cases hcell
    exact hopposite nofun rfl rfl
  · obtain ⟨-, -, cell, hcell, horder, -⟩ := htable.comparison_sound hvalid hratio hrow
    exact ⟨cell, hcell, horder.mpr (.inr (.inr rfl))⟩

end TableScan
