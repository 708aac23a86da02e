import TableScan.Proofs.Predicate.Reads
import TableScan.Proofs.Predicate.Typed

/-!
Typed accessors. A test of the caller is shown its cell read as the type that the reference asks for,
while a comparison takes the cell as it is stored and leaves it to the order of values to widen. Both
come to the same: whatever can be read as a type compares with the literals of that type as what is
read of it does.
-/

namespace TableScan

namespace Value

/-- A literal of the type asked for is read as itself, so only the cell may change by being read. -/
theorem compare?_of_readAs {t : ColumnType} {v seen literal : Value} (hread : readAs t v = some seen)
    (hliteral : literal.type? = some t) : v.compare? literal = seen.compare? literal := by
  cases t with
  | int64 =>
    obtain ⟨m, hm, rfl⟩ := Option.map_eq_some_iff.mp hread
    cases literal <;> cases hliteral
    rw [compare?_of_ints hm rfl, compare?_of_ints rfl rfl]
  | float64 =>
    obtain ⟨x, hx, rfl⟩ := Option.map_eq_some_iff.mp hread
    cases literal <;> cases hliteral
    rw [compare?_float_right, compare?_float_right, hx]
    rfl
  | boolean | int32 | utf8 | binary | timestamp =>
    -- these are read from values of the very type only, as they stand
    obtain ⟨-, rfl⟩ : v.type? = some _ ∧ v = seen := by simpa [readAs] using hread
    rfl

/-- Of the values that a type can be read from, only the missing one is not read. -/
theorem readAs_eq_none_iff {t : ColumnType} {v : Value}
    (h : ∀ declared ∈ v.type?, declared.canReadAs t = true) : readAs t v = none ↔ v = null := by
  constructor
  · intro hread
    by_contra hnull
    obtain ⟨declared, hdeclared⟩ := Option.ne_none_iff_exists'.mp (mt type?_eq_none.mp hnull)
    have hsome := readAs_isSome hdeclared (h declared hdeclared)
    rw [hread] at hsome
    cases hsome
  · rintro rfl
    exact readAs_null t

end Value

/-- Whether the cell of a reference is absent, missing, or of a type that can be read as the one that
is asked for. -/
def Row.Readable (row : Row) (column : ColumnRef) : Prop :=
  ∀ declared ∈ (row.readOrNull column.index).type?, declared.canReadAs column.type = true

/-- The test of a cell that was read: it is there, and the operator accepts its order to a literal. -/
def CellTest.comparing (label : String) (op : Operator) (literal : Value) : CellTest where
  label := label
  accepts seen := !seen.isNull && (seen.compare? literal).any op.accepts

theorem CellTest.comparing_accepts (label : String) (op : Operator) (literal seen : Value) :
    (comparing label op literal).accepts seen = (seen.compare? literal).any op.accepts := by
  cases seen with
  | null => rw [Value.compare?_null_left]; rfl
  | _ => rfl

namespace Predicate

variable {column : ColumnRef} {op : Operator} {literal : Value} {row : Row}

theorem holds_comparison_eq (hrow : row.Readable column)
    (hliteral : literal.type? = some column.type) (label : String) :
    (comparison column op literal).holds row =
      (userDefined column .typed (.comparing label op literal)).holds row := by
  rw [holds, holds, evaluate_comparison, evaluate_userDefined]
  simp only [CellView.show, Option.bind_some, CellTest.comparing_accepts]
  cases hread : Value.readAs column.type (row.readOrNull column.index) with
  | none =>
    rw [(Value.readAs_eq_none_iff hrow).mp hread]
    rfl
  | some seen => rw [Value.compare?_of_readAs hread hliteral, Option.getD_some]

/-- The test of a read cell holds if something was read and the operator accepts its order to the
literal. -/
theorem holds_comparing (column : ColumnRef) (op : Operator) (literal : Value) (label : String)
    (row : Row) :
    (userDefined column .typed (.comparing label op literal)).holds row =
      ((row.read? column.index).bind (Value.readAs column.type)).any fun seen =>
        (seen.compare? literal).any op.accepts := by
  rw [holds, evaluate]
  simp only [CellView.show, CellTest.comparing_accepts]
  cases (row.read? column.index).bind (Value.readAs column.type) with
  | none => rw [Option.getD_none, Value.compare?_null_left]; rfl
  | some seen => rfl

theorem bind_readAs_eq_none_iff (hrow : row.Readable column) :
    (row.read? column.index).bind (Value.readAs column.type) = none ↔
      row.readOrNull column.index = .null := by
  rw [← Value.readAs_eq_none_iff hrow, Row.readOrNull]
  cases row.read? column.index with
  | none => simp
  | some cell => rfl

/-- On the rows of a table a valid comparison finds a cell that can be read. -/
theorem readable_of_valid {table : Table} (htable : table.Reachable)
    (hvalid : (comparison column op literal).validate table.schema.catalog = .ok ())
    (hrow : row ∈ table.rows) : row.Readable column := by
  have hleaves := ((checks_validate table.schema.catalog _).ok_iff.mp hvalid).1
  obtain ⟨declared, hdeclared, hsuits⟩ := hleaves _ (.head _)
  obtain ⟨-, cell, hcell, htype⟩ := (htable.fits row hrow).read hdeclared
  intro type htype'
  rw [Row.readOrNull, hcell, Option.getD_some] at htype'
  rcases htype with rfl | htype
  · cases htype'
  · obtain rfl : declared = type := Option.some.inj (htype.symm.trans htype')
    exact (suits_iff.mp hsuits).2.1

/-- A comparison with a literal of the type that it asks for says: read the cell as that type, and
compare what was read. Wherever the cell is absent, missing or of a type that can be read so, it has the
outcome of the caller's test that does this, which is whether something was read and the operator accepts
its order to the literal; reading fails on no cell but a missing one; and the rows of a table are such rows
if the comparison is valid. -/
theorem comparison_reads_cell (hliteral : literal.type? = some column.type) (label : String) :
    (∀ row : Row, row.Readable column →
      let read := (row.read? column.index).bind (Value.readAs column.type)
      (comparison column op literal).holds row =
          (userDefined column .typed (.comparing label op literal)).holds row ∧
        (comparison column op literal).holds row =
          read.any (fun seen => (seen.compare? literal).any op.accepts) ∧
        (read = none ↔ row.readOrNull column.index = .null)) ∧
      ∀ table : Table, table.Reachable →
        (comparison column op literal).validate table.schema.catalog = .ok () →
        ∀ row ∈ table.rows, row.Readable column := by
  refine ⟨fun row hrow => ?_, ?_⟩
  · have htest := @holds_comparison_eq column op literal row hrow hliteral label
    exact ⟨htest, htest.trans (holds_comparing column op literal label row),
      bind_readAs_eq_none_iff hrow⟩
  · exact fun table htable hvalid row hrow => readable_of_valid htable hvalid hrow

/-- An integer that is not a double and the double next to it: both ways call them equal, and neither
calls the integer greater. A timestamp is read as its count, but not as a double. -/
theorem comparison_reads_cell_rounded :
    let schema : Schema := ⟨[⟨"size", .int64⟩, ⟨"at", .timestamp⟩]⟩
    let row : Row := ⟨"a", [.int64 9007199254740993, .timestamp 7]⟩
    let literal : Value := .float64 (.ofInt64 9007199254740992)
    row.Readable ⟨0, .float64⟩ ∧ row.Readable ⟨1, .int64⟩ ∧ ¬row.Readable ⟨1, .float64⟩ ∧
      (comparison ⟨0, .float64⟩ .eq literal).holds row = true ∧
      (comparison ⟨0, .float64⟩ .eq literal).holds row =
        (userDefined ⟨0, .float64⟩ .typed (.comparing "same" .eq literal)).holds row ∧
      (comparison ⟨0, .float64⟩ .gt literal).holds row = false ∧
      (comparison ⟨0, .float64⟩ .gt literal).holds row =
        (userDefined ⟨0, .float64⟩ .typed (.comparing "more" .gt literal)).holds row ∧
      (comparison ⟨1, .int64⟩ .lt (.int64 9)).validate schema.catalog = .ok () := by
  intro schema row literal
  have hreadable : row.Readable ⟨0, .float64⟩ := by
    intro declared hdeclared
    cases hdeclared
    rfl
  have hvalid : (comparison ⟨1, .int64⟩ .lt (.int64 9)).validate schema.catalog = .ok () := rfl
  have hpush : (Table.empty schema).push row = .ok ⟨schema, [row]⟩ := rfl
  have hcounts := @comparison_reads_cell ⟨1, .int64⟩ .lt (.int64 9) rfl
  obtain ⟨hsame, hequal, -⟩ :=
    (@comparison_reads_cell ⟨0, .float64⟩ .eq literal rfl "same").1 row hreadable
  obtain ⟨hmore, hrejected, -⟩ :=
    (@comparison_reads_cell ⟨0, .float64⟩ .gt literal rfl "more").1 row hreadable
  refine ⟨hreadable, ?_, ?_, hequal.trans (by decide +kernel), hsame,
    hrejected.trans (by decide +kernel), hmore, hvalid⟩
  · exact (hcounts "soon").2 _ (.push (.empty schema) hpush) hvalid row (.head _)
  · intro h
    exact absurd (h .timestamp rfl) (by decide)

end Predicate

end TableScan
