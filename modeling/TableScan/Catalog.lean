import TableScan.ColumnType

/-!
What validation may ask about the columns of a source. The number of columns, their types and their
names are separate answers and need not agree with each other.
-/

namespace TableScan

structure Catalog where
  count : Nat
  type? : Nat → Option ColumnType
  name? : Nat → Option String

namespace Catalog

/-- The position that an index names, if it is one of the counted columns. -/
def resolve? (catalog : Catalog) (index : Int) : Option Nat :=
  index.toNat?.filter fun position => position < catalog.count

theorem resolve?_eq_some_iff {catalog : Catalog} {index : Int} {position : Nat} :
    catalog.resolve? index = some position ↔ index = position ∧ position < catalog.count := by
  simp only [resolve?, Option.filter_eq_some_iff, decide_eq_true_eq]
  cases index with
  | ofNat n =>
    simp only [Int.toNat?, Option.some.injEq, Int.ofNat_eq_natCast]
    constructor <;> rintro ⟨h, hlt⟩ <;> exact ⟨by omega, hlt⟩
  | negSucc n => simp only [Int.toNat?, reduceCtorEq, false_and]

end Catalog

end TableScan
