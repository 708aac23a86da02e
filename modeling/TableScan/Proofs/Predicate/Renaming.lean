import TableScan.Proofs.Plan
import TableScan.Proofs.Predicate.Reads

/-!
Predicates on projected rows. A cell of a projected row is a cell of the row that it was made of, so a
predicate on the one is the predicate on the other with its columns renamed. There are three ways for a
cell to be missing (the projection has no such column, the row has none, the cell is empty), and none
of them makes a difference to a comparison or to a test of the caller. The renamed predicate is valid
for the columns just if the predicate is for those that are projected.
-/

namespace TableScan

/-- The column of which a projected row shows the cell at an index. Where it shows none, minus one,
which is no column either. -/
def sourceIndex (positions : List Nat) : Int → Int
  | .ofNat i => (positions[i]?.map Int.ofNat).getD (-1)
  | .negSucc _ => -1

def ColumnRef.through (positions : List Nat) (column : ColumnRef) : ColumnRef :=
  { column with index := sourceIndex positions column.index }

/-- The predicate that says of a row what the predicate says of the row when it is projected. -/
def Predicate.through (positions : List Nat) : Predicate → Predicate
  | comparison column op literal => comparison (column.through positions) op literal
  | userDefined column view test => userDefined (column.through positions) view test
  | and left right => and (left.through positions) (right.through positions)
  | or left right => or (left.through positions) (right.through positions)

/-! ## Evaluation -/

theorem Row.readOrNull_project (row : Row) (positions : List Nat) (index : Int) :
    (row.project positions).readOrNull index = row.readOrNull (sourceIndex positions index) := by
  cases index with
  | ofNat i =>
    have hcell : (row.project positions).readOrNull (.ofNat i) =
        (positions[i]?.map row.cellOrNull).getD .null :=
      congrArg (Option.getD · Value.null) (row.cell?_project positions i)
    rw [hcell, sourceIndex]
    cases positions[i]? <;> rfl
  | negSucc n => rfl

theorem Predicate.evaluate_project (p : Predicate) (positions : List Nat) (row : Row) :
    p.evaluate (row.project positions) = (p.through positions).evaluate row := by
  induction p with
  | comparison column op literal =>
    rw [through, evaluate_comparison, evaluate_comparison, row.readOrNull_project]
    rfl
  | userDefined column view test =>
    rw [through, evaluate_userDefined, evaluate_userDefined, row.readOrNull_project]
    rfl
  | and left right ihl ihr => rw [through, evaluate, evaluate, ihl, ihr]
  | or left right ihl ihr => rw [through, evaluate, evaluate, ihl, ihr]

/-! ## Validation -/

namespace Schema

variable {schema : Schema} {positions : List Nat}

theorem declared?_natCast (schema : Schema) (i : Nat) :
    schema.catalog.declared? i = schema.type? i := by
  by_cases hnames : schema.catalog.Names i
  · exact Catalog.declared?_of_names hnames
  · have hwidth : schema.columns.length ≤ i := by
      have hlt := mt (fun h => ⟨Int.natCast_nonneg i, Int.ofNat_lt.mpr h⟩) hnames
      exact Nat.le_of_not_lt hlt
    rw [Catalog.declared?_of_not_names hnames, type?, column?, List.getElem?_eq_none hwidth]
    rfl

/-- A schema knows the type of every column that it counts. -/
theorem names_iff {index : Int} :
    schema.catalog.Names index ↔ ∃ declared, schema.catalog.declared? index = some declared := by
  constructor
  · intro h
    have hlt : index.toNat < schema.columns.length := h.toNat_lt
    rw [Catalog.declared?_of_names h]
    exact ⟨_, congrArg (Option.map Column.type) (List.getElem?_eq_getElem hlt)⟩
  · rintro ⟨declared, hdeclared⟩
    exact Catalog.names_of_declared? hdeclared

theorem declared?_project (h : ∀ position ∈ positions, position < schema.width) (index : Int) :
    (schema.project positions).catalog.declared? index =
      schema.catalog.declared? (sourceIndex positions index) := by
  cases index with
  | ofNat i =>
    have htype : (schema.project positions).catalog.declared? (.ofNat i) =
        (positions[i]?.bind schema.column?).map Column.type :=
      (declared?_natCast _ i).trans (congrArg (Option.map Column.type) (column?_project h i))
    rw [htype, sourceIndex]
    cases positions[i]? with
    | none => rfl
    | some position => exact (schema.declared?_natCast position).symm
  | negSucc n => rfl

end Schema

def Leaf.through (positions : List Nat) : Leaf → Leaf
  | comparison column op literal => comparison (column.through positions) op literal
  | userDefined column view test => userDefined (column.through positions) view test

theorem Predicate.leaves_through (p : Predicate) (positions : List Nat) :
    (p.through positions).leaves = p.leaves.map (Leaf.through positions) := by
  induction p with
  | comparison column op literal => rfl
  | userDefined column view test => rfl
  | and left right ihl ihr => rw [through, leaves, leaves, List.map_append, ihl, ihr]
  | or left right ihl ihr => rw [through, leaves, leaves, List.map_append, ihl, ihr]

variable {schema : Schema} {positions : List Nat}

theorem Leaf.valid_through_iff (h : ∀ position ∈ positions, position < schema.width) (leaf : Leaf) :
    (leaf.through positions).Valid schema.catalog ↔
      leaf.Valid (schema.project positions).catalog := by
  cases leaf with
  | comparison column op literal =>
    simp only [Valid, Schema.declared?_project h]
    rfl
  | userDefined column view test =>
    simp only [Valid, Schema.names_iff, Schema.declared?_project h]
    rfl

theorem Predicate.validate_through_iff (h : ∀ position ∈ positions, position < schema.width)
    (p : Predicate) :
    (p.through positions).validate schema.catalog = .ok () ↔
      p.validate (schema.project positions).catalog = .ok () := by
  rw [(checks_validate _ _).ok_iff, (checks_validate _ _).ok_iff, leaves_through,
    List.forall_mem_map]
  simp only [Leaf.valid_through_iff h]

end TableScan
