import TableScan.Proofs.Predicate.Leaves

/-!
The fault that validation reports. A leaf can be at fault in two ways, and each is told here by the
index, the types and the operator of the leaf and by what the catalog answers to them; the answers need
not agree with each other. Of all faults of a predicate the leftmost is reported, whatever nodes stand
above the leaves.
-/

namespace TableScan

theorem Catalog.not_names_iff {catalog : Catalog} {index : Int} :
    ¬catalog.Names index ↔ index < 0 ∨ catalog.count ≤ index := by
  rw [Names]
  omega

theorem Predicate.suits_eq_false_iff {declared requested : ColumnType} {op : Operator}
    {literal : Value} :
    suits declared requested op literal = false ↔
      literal = .null ∨ (∃ type, literal.type? = some type ∧ type.canReadAs requested = false) ∨
        declared.canReadAs requested = false ∨ op.supports declared = false := by
  have hliteral : literal.type?.any (·.canReadAs requested) = false ↔
      literal = .null ∨ ∃ type, literal.type? = some type ∧ type.canReadAs requested = false := by
    rw [← Value.type?_eq_none]
    cases literal.type? <;> simp
  rw [suits, Bool.and_eq_false_iff, Bool.and_eq_false_iff, hliteral, or_assoc, or_assoc]

namespace Leaf

variable {catalog : Catalog} {leaf : Leaf}

/-- Whether the leaf compares its cell with a literal. -/
def compares : Leaf → Bool
  | comparison _ _ _ => true
  | userDefined _ _ _ => false

/-- The index names no counted column, or a comparison needs the type of a column of unknown type. -/
def OutOfRange (catalog : Catalog) (leaf : Leaf) : Prop :=
  leaf.column.index < 0 ∨ catalog.count ≤ leaf.column.index ∨
    leaf.compares = true ∧ catalog.type? leaf.column.index.toNat = none

/-- A comparison of a column of known type: its literal is missing or cannot be read as the type that
is asked for, or the declared type cannot be, or the operator does not apply to the declared type. -/
def Unsuited (catalog : Catalog) (leaf : Leaf) (mismatch : Mismatch) : Prop :=
  ∃ column op literal declared, leaf = comparison column op literal ∧
    (0 ≤ column.index ∧ column.index < catalog.count) ∧
    catalog.type? column.index.toNat = some declared ∧
    (literal = .null ∨
      (∃ type, literal.type? = some type ∧ type.canReadAs column.type = false) ∨
      declared.canReadAs column.type = false ∨ op.supports declared = false) ∧
    mismatch = {
      column := (catalog.name? column.index.toNat).getD ""
      index := column.index.toNat
      declared := declared
      requested := column.type
      op := op }

theorem fault_outOfRange_iff {index : Int} {count : Nat} :
    leaf.Fault catalog (.columnOutOfRange index count) ↔
      leaf.OutOfRange catalog ∧ index = leaf.column.index ∧ count = catalog.count := by
  rw [OutOfRange, ← or_assoc, ← Catalog.not_names_iff]
  constructor
  · intro h
    cases h with
    | unnamed hnames => exact ⟨.inl hnames, rfl, rfl⟩
    | undeclared hnames hdeclared =>
      rw [Catalog.declared?_of_names hnames] at hdeclared
      exact ⟨.inr ⟨rfl, hdeclared⟩, rfl, rfl⟩
  · rintro ⟨hindex, rfl, rfl⟩
    by_cases hnames : catalog.Names leaf.column.index
    · obtain ⟨hcompares, htype⟩ := hindex.resolve_left (not_not_intro hnames)
      cases leaf with
      | comparison column op literal =>
        exact .undeclared hnames ((Catalog.declared?_of_names hnames).trans htype)
      | userDefined column view test => cases hcompares
    · exact .unnamed hnames

theorem fault_incompatible_iff {mismatch : Mismatch} :
    leaf.Fault catalog (.incompatible mismatch) ↔ leaf.Unsuited catalog mismatch := by
  constructor
  · intro h
    cases h with
    | unsuited hdeclared hsuits =>
      have hnames := Catalog.names_of_declared? hdeclared
      rw [Catalog.declared?_of_names hnames] at hdeclared
      exact ⟨_, _, _, _, rfl, hnames, hdeclared, Predicate.suits_eq_false_iff.mp hsuits, rfl⟩
  · rintro ⟨column, op, literal, declared, rfl, hnames, htype, hunsuited, rfl⟩
    have hdeclared := (Catalog.declared?_of_names hnames).trans htype
    exact .unsuited hdeclared (Predicate.suits_eq_false_iff.mpr hunsuited)

theorem valid_iff (leaf : Leaf) : leaf.Valid catalog ↔ ∀ error, ¬leaf.Fault catalog error := by
  cases leaf with
  | comparison column op literal => exact (Predicate.checks_comparison column op literal).valid_iff
  | userDefined column view test => exact (Predicate.checks_userDefined column view test).valid_iff

/-- A leaf that is valid has an index that names a column. -/
theorem Valid.names (h : leaf.Valid catalog) : catalog.Names leaf.column.index := by
  cases leaf with
  | comparison column op literal =>
    obtain ⟨declared, hdeclared, -⟩ := h
    exact Catalog.names_of_declared? hdeclared
  | userDefined column view test => exact h

end Leaf

namespace Predicate

variable {catalog : Catalog} {p q : Predicate}

theorem referencedColumns_eq (p : Predicate) :
    p.referencedColumns = p.leaves.map (·.column.index) := by
  induction p with
  | comparison column op literal => rfl
  | userDefined column view test => rfl
  | and left right ihl ihr => rw [referencedColumns, leaves, List.map_append, ihl, ihr]
  | or left right ihl ihr => rw [referencedColumns, leaves, List.map_append, ihl, ihr]

/-- How the leaves are joined makes no difference. -/
theorem validate_eq_of_leaves (h : q.leaves = p.leaves) :
    q.validate catalog = p.validate catalog := by
  have hq := checks_validate catalog q
  rw [h] at hq
  exact hq.unique (checks_validate catalog p)

theorem names_of_validate (h : p.validate catalog = .ok ()) :
    ∀ index ∈ p.referencedColumns, catalog.Names index := by
  rw [referencedColumns_eq, List.forall_mem_map]
  intro leaf hleaf
  exact (((checks_validate catalog p).ok_iff.mp h).1 leaf hleaf).names

/-- A predicate is valid if and only if all its leaves are; otherwise it is answered with the fault of
the first leaf from the left that has one, however conjunctions and disjunctions are nested. A leaf that
is not valid is either out of range or unsuited, and its fault says so. All columns that a valid
predicate refers to are among those counted. -/
theorem validate_leftmost (catalog : Catalog) (p : Predicate) :
    (p.validate catalog = .ok () ↔ ∀ leaf ∈ p.leaves, leaf.Valid catalog) ∧
      (∀ error, p.validate catalog = .error error ↔
        FirstFault (Leaf.Valid catalog) (Leaf.Fault catalog) p.leaves error) ∧
      (∀ q : Predicate, q.leaves = p.leaves → q.validate catalog = p.validate catalog) ∧
      (∀ leaf : Leaf, leaf.Valid catalog ↔ ∀ error, ¬leaf.Fault catalog error) ∧
      (∀ (leaf : Leaf) (index : Int) (count : Nat),
        leaf.Fault catalog (.columnOutOfRange index count) ↔
          leaf.OutOfRange catalog ∧ index = leaf.column.index ∧ count = catalog.count) ∧
      (∀ (leaf : Leaf) (mismatch : Mismatch),
        leaf.Fault catalog (.incompatible mismatch) ↔ leaf.Unsuited catalog mismatch) ∧
      (p.validate catalog = .ok () →
        ∀ index ∈ p.referencedColumns, 0 ≤ index ∧ index < catalog.count) := by
  have hchecks := checks_validate catalog p
  refine ⟨?_, fun error => hchecks.error_iff, fun q hq => validate_eq_of_leaves hq, fun leaf => ?_,
    fun leaf index count => Leaf.fault_outOfRange_iff,
    fun leaf mismatch => Leaf.fault_incompatible_iff, names_of_validate⟩
  · rw [hchecks.ok_iff, and_iff_left rfl]
  · exact leaf.valid_iff

/-- A catalog that counts three columns, knows the types of two and the name of one. Its third column
may be tested but not compared; and of two faults the one on the left is reported, wherever the
parentheses stand. -/
theorem validate_leftmost_loose :
    let catalog : Catalog := ⟨3, fun i => [.int32, .binary][i]?, fun i => ["size"][i]?⟩
    let test : Predicate := .userDefined ⟨2, .utf8⟩ .typed ⟨"seen", fun _ => true⟩
    let order : Predicate := .comparison ⟨1, .binary⟩ .lt (.binary [0])
    let compare : Predicate := .comparison ⟨2, .int32⟩ .eq (.int32 0)
    (or (and test order) compare).validate catalog =
        .error (.incompatible ⟨"", 1, .binary, .binary, .lt⟩) ∧
      (and test (or order compare)).validate catalog =
        (or (and test order) compare).validate catalog ∧
      (or compare (and test order)).validate catalog = .error (.columnOutOfRange 2 3) ∧
      ∀ index ∈ test.referencedColumns, 0 ≤ index ∧ index < catalog.count := by
  intro catalog test order compare
  refine ⟨?_, ?_, ?_, ?_⟩
  · have hfault : (Leaf.comparison ⟨1, .binary⟩ .lt (.binary [0])).Fault catalog
        (.incompatible ⟨"", 1, .binary, .binary, .lt⟩) := .unsuited rfl rfl
    exact ((validate_leftmost catalog _).2.1 _).mpr (.later ⟨by decide, by decide⟩ (.here hfault))
  · exact (validate_leftmost catalog _).2.2.1 _ rfl
  · exact ((validate_leftmost catalog _).2.1 _).mpr (.here (.undeclared ⟨by decide, by decide⟩ rfl))
  · exact (validate_leftmost catalog _).2.2.2.2.2.2 rfl

end Predicate

end TableScan
