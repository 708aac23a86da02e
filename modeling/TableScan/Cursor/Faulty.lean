import TableScan.Cursor

/-!
A base cursor that may fail: it promises a row while entries are left, but an entry can turn out to
be no row. Every request for a row uses up an entry and counts as a draw.
-/

namespace TableScan.Faulty

/-- What a request finds. A missing row is a failure. -/
abbrev Entries := List (Option Row)

def hasNext (entries : Entries) : Reply Entries Bool := ⟨!entries.isEmpty, entries, .empty⟩

def nextRow : Entries → Reply Entries (Except ScanError Row)
  | some row :: rest => ⟨.ok row, rest, .ofDraws 1⟩
  | none :: rest => ⟨.error .noSuchElement, rest, .ofDraws 1⟩
  | [] => ⟨.error .noSuchElement, [], .ofDraws 1⟩

theorem length_nextRow (entries : Entries) :
    (nextRow entries).state.length + rowsIn (nextRow entries).answer ≤ entries.length := by
  unfold nextRow
  split <;> simp [rowsIn]

def cursor : Cursor Entries where
  hasNext := hasNext
  nextRow := nextRow
  left := List.length
  left_hasNext _ := Nat.le_refl _
  left_nextRow := length_nextRow

end TableScan.Faulty
