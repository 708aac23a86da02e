import Mathlib.Data.List.ReduceOption
import TableScan.Cursor.Faulty

/-!
The entries of a base that may fail. What can be pulled from such a base is told by the rows before its
first failure and by the draws that it takes to meet that failure, or else the end of the entries.
-/

namespace TableScan.Faulty

/-- The rows before the first failure. -/
def rows (entries : Entries) : List Row := (entries.takeWhile Option.isSome).reduceOption

/-- The draws by which the first failure is met, or all entries are used up if there is none. -/
def drawsToEnd (entries : Entries) : Nat :=
  (entries.findIdx? Option.isNone).elim entries.length (· + 1)

variable {entries rest : Entries} {row : Row} {draws : Nat}

@[simp] theorem rows_nil : rows [] = [] := rfl

@[simp] theorem rows_none : rows (none :: rest) = [] := rfl

@[simp] theorem rows_some : rows (some row :: rest) = row :: rows rest := rfl

@[simp] theorem drawsToEnd_nil : drawsToEnd [] = 0 := rfl

@[simp] theorem drawsToEnd_none : drawsToEnd (none :: rest) = 1 := by
  simp [drawsToEnd, List.findIdx?_cons]

@[simp] theorem drawsToEnd_some : drawsToEnd (some row :: rest) = drawsToEnd rest + 1 := by
  simp only [drawsToEnd, List.findIdx?_cons, Option.isNone_some, Bool.false_eq_true, if_false]
  cases rest.findIdx? Option.isNone <;> rfl

theorem length_rows_le (entries : Entries) : (rows entries).length ≤ drawsToEnd entries := by
  induction entries with
  | nil => exact Nat.le_refl _
  | cons entry rest ih =>
    cases entry with
    | none => exact Nat.zero_le _
    | some row =>
      rw [rows_some, drawsToEnd_some]
      exact Nat.succ_le_succ ih

/-- As long as only rows were drawn, the rows to come are the others. -/
theorem rows_drop (h : draws ≤ (rows entries).length) :
    rows (entries.drop draws) = (rows entries).drop draws := by
  induction entries generalizing draws with
  | nil => simp
  | cons entry rest ih =>
    cases draws with
    | zero => rfl
    | succ draws =>
      cases entry with
      | none => exact absurd h (Nat.not_succ_le_zero draws)
      | some row => exact ih (Nat.le_of_succ_le_succ h)

theorem drawsToEnd_drop (h : draws ≤ (rows entries).length) :
    draws + drawsToEnd (entries.drop draws) = drawsToEnd entries := by
  induction entries generalizing draws with
  | nil => simpa using h
  | cons entry rest ih =>
    cases draws with
    | zero => exact Nat.zero_add _
    | succ draws =>
      cases entry with
      | none => exact absurd h (Nat.not_succ_le_zero draws)
      | some row =>
        have hrest := ih (Nat.le_of_succ_le_succ h)
        rw [List.drop_succ_cons, drawsToEnd_some, ← hrest]
        omega

end TableScan.Faulty
