import TableScan.Predicate.Validate
import TableScan.Proofs.Faults

/-!
The leaves of a predicate. Validation looks at the leaves alone: a predicate is valid if each of its
leaves is, however they are joined, and otherwise its fault is that of the leftmost faulty leaf.
-/

namespace TableScan

/-! ## What a catalog tells about an index -/

namespace Catalog

variable {catalog : Catalog} {index : Int}

/-- Whether an index is that of a counted column. -/
def Names (catalog : Catalog) (index : Int) : Prop := 0 ≤ index ∧ index < catalog.count

instance : Decidable (catalog.Names index) := inferInstanceAs (Decidable (_ ∧ _))

/-- The type of the column that an index names, as far as the catalog knows it. -/
def declared? (catalog : Catalog) (index : Int) : Option ColumnType :=
  (catalog.resolve? index).bind catalog.type?

theorem Names.toNat_lt (h : catalog.Names index) : index.toNat < catalog.count := by
  obtain ⟨hnonneg, hlt⟩ := h
  omega

theorem resolve?_of_names (h : catalog.Names index) :
    catalog.resolve? index = some index.toNat := by
  obtain ⟨hnonneg, hlt⟩ := h
  exact resolve?_eq_some_iff.mpr ⟨by omega, by omega⟩

theorem resolve?_eq_none_iff : catalog.resolve? index = none ↔ ¬catalog.Names index := by
  constructor
  · intro h hnames
    rw [resolve?_of_names hnames] at h
    cases h
  · intro h
    rw [Option.eq_none_iff_forall_ne_some]
    intro position hposition
    obtain ⟨rfl, hlt⟩ := resolve?_eq_some_iff.mp hposition
    exact h ⟨by omega, by omega⟩

theorem declared?_of_not_names (h : ¬catalog.Names index) : catalog.declared? index = none := by
  rw [declared?, resolve?_eq_none_iff.mpr h]
  rfl

theorem declared?_of_names (h : catalog.Names index) :
    catalog.declared? index = catalog.type? index.toNat := by
  rw [declared?, resolve?_of_names h]
  rfl

theorem names_of_declared? {declared : ColumnType} (h : catalog.declared? index = some declared) :
    catalog.Names index := by
  by_contra hnames
  rw [declared?_of_not_names hnames] at h
  cases h

/-- The report of a comparison that does not suit the declared type of its column. -/
def mismatch (catalog : Catalog) (column : ColumnRef) (op : Operator) (declared : ColumnType) :
    Mismatch where
  column := (catalog.name? column.index.toNat).getD ""
  index := column.index.toNat
  declared := declared
  requested := column.type
  op := op

end Catalog

/-! ## Leaves -/

/-- The part of a predicate that tests one cell. -/
inductive Leaf where
  | comparison (column : ColumnRef) (op : Operator) (literal : Value)
  | userDefined (column : ColumnRef) (view : CellView) (test : CellTest)

namespace Leaf

def column : Leaf → ColumnRef
  | comparison column _ _ => column
  | userDefined column _ _ => column

/-- A comparison needs a column whose type, literal and operator suit each other; a caller's test only
needs a column. -/
def Valid (catalog : Catalog) : Leaf → Prop
  | comparison column op literal => ∃ declared, catalog.declared? column.index = some declared ∧
      Predicate.suits declared column.type op literal = true
  | userDefined column _ _ => catalog.Names column.index

/-- What is wrong with a leaf. -/
inductive Fault (catalog : Catalog) : Leaf → ValidationError → Prop
  | unnamed {leaf : Leaf} : ¬catalog.Names leaf.column.index →
      Fault catalog leaf (.columnOutOfRange leaf.column.index catalog.count)
  | undeclared {column : ColumnRef} {op : Operator} {literal : Value} :
      catalog.Names column.index → catalog.declared? column.index = none →
      Fault catalog (comparison column op literal) (.columnOutOfRange column.index catalog.count)
  | unsuited {column : ColumnRef} {op : Operator} {literal : Value} {declared : ColumnType} :
      catalog.declared? column.index = some declared →
      Predicate.suits declared column.type op literal = false →
      Fault catalog (comparison column op literal)
        (.incompatible (catalog.mismatch column op declared))

end Leaf

namespace Predicate

variable {catalog : Catalog}

/-- The leaves from left to right. -/
def leaves : Predicate → List Leaf
  | comparison column op literal => [.comparison column op literal]
  | userDefined column view test => [.userDefined column view test]
  | and left right => left.leaves ++ right.leaves
  | or left right => left.leaves ++ right.leaves

theorem suits_iff {declared requested : ColumnType} {op : Operator} {literal : Value} :
    suits declared requested op literal = true ↔
      (∃ type, literal.type? = some type ∧ type.canReadAs requested = true) ∧
        declared.canReadAs requested = true ∧ op.supports declared = true := by
  rw [suits, Bool.and_eq_true, Bool.and_eq_true, Option.any_eq_true, and_assoc]

section Comparison

variable {column : ColumnRef} {op : Operator} {literal : Value} {declared : ColumnType}

theorem validate_of_undeclared (h : catalog.declared? column.index = none) :
    (comparison column op literal).validate catalog =
      .error (.columnOutOfRange column.index catalog.count) := by
  by_cases hnames : catalog.Names column.index
  · rw [Catalog.declared?_of_names hnames] at h
    simp only [validate, Catalog.resolve?_of_names hnames, h]
  · simp only [validate, Catalog.resolve?_eq_none_iff.mpr hnames]

theorem validate_of_declared (h : catalog.declared? column.index = some declared) :
    (comparison column op literal).validate catalog =
      if suits declared column.type op literal then .ok ()
      else .error (.incompatible (catalog.mismatch column op declared)) := by
  have hnames := Catalog.names_of_declared? h
  rw [Catalog.declared?_of_names hnames] at h
  simp only [validate, Catalog.resolve?_of_names hnames, h, Catalog.mismatch]

theorem checks_comparison (column : ColumnRef) (op : Operator) (literal : Value) :
    Checks ((comparison column op literal).validate catalog)
      ((Leaf.comparison column op literal).Valid catalog) ()
      ((Leaf.comparison column op literal).Fault catalog) where
  ok := by
    rintro ⟨declared, hdeclared, hsuits⟩
    rw [validate_of_declared hdeclared, if_pos hsuits]
  error := by
    intro fault h
    cases h with
    | unnamed hnames => exact validate_of_undeclared (Catalog.declared?_of_not_names hnames)
    | undeclared _ hdeclared => exact validate_of_undeclared hdeclared
    | unsuited hdeclared hsuits => rw [validate_of_declared hdeclared, if_neg (by simp [hsuits])]
  decides := by
    cases hdeclared : catalog.declared? column.index with
    | none =>
      by_cases hnames : catalog.Names column.index
      · exact .inr ⟨_, .undeclared hnames hdeclared⟩
      · exact .inr ⟨_, .unnamed hnames⟩
    | some declared =>
      cases hsuits : suits declared column.type op literal with
      | true => exact .inl ⟨declared, hdeclared, hsuits⟩
      | false => exact .inr ⟨_, .unsuited hdeclared hsuits⟩

end Comparison

theorem checks_userDefined (column : ColumnRef) (view : CellView) (test : CellTest) :
    Checks ((userDefined column view test).validate catalog)
      ((Leaf.userDefined column view test).Valid catalog) ()
      ((Leaf.userDefined column view test).Fault catalog) where
  ok := by
    intro hnames
    simp only [validate, Catalog.resolve?_of_names hnames]
  error := by
    intro fault h
    cases h with
    | unnamed hnames =>
      have hresolve : catalog.resolve? column.index = none :=
        Catalog.resolve?_eq_none_iff.mpr hnames
      simp only [validate, hresolve, Leaf.column]
  decides := by
    by_cases hnames : catalog.Names column.index
    · exact .inl hnames
    · exact .inr ⟨_, .unnamed hnames⟩

/-- A predicate is valid if all its leaves are, and its fault is that of the leftmost faulty leaf. The
nodes above the leaves only pass on what their sides answer. -/
theorem checks_validate (catalog : Catalog) (p : Predicate) :
    Checks (p.validate catalog) (∀ leaf ∈ p.leaves, leaf.Valid catalog) ()
      (FirstFault (Leaf.Valid catalog) (Leaf.Fault catalog) p.leaves) := by
  induction p with
  | comparison column op literal =>
    refine (checks_comparison column op literal).of_iff ?_ fun e => ?_
    · exact List.forall_mem_singleton
    · exact FirstFault.singleton_iff
  | userDefined column view test =>
    refine (checks_userDefined column view test).of_iff ?_ fun e => ?_
    · exact List.forall_mem_singleton
    · exact FirstFault.singleton_iff
  | and left right ihl ihr =>
    refine (ihl.bind fun _ => ihr).of_iff ?_ fun e => ?_
    · exact List.forall_mem_append
    · exact FirstFault.append_iff
  | or left right ihl ihr =>
    refine (ihl.bind fun _ => ihr).of_iff ?_ fun e => ?_
    · exact List.forall_mem_append
    · exact FirstFault.append_iff

end Predicate

end TableScan
