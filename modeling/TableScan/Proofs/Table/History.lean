import Mathlib.Data.List.Induction
import TableScan.Proofs.Table

/-!
What becomes of a table that rows are added to. A row that fits is appended, one that does not leaves
the table as it was. So a table holds the rows of the calls that succeeded, in the order of the calls,
and whether a call succeeds does not depend on those before it.
-/

namespace TableScan

/-- A cell that its column does not admit, with the type that the cell has. -/
inductive Column.Refuses : Column × Value → Column × ColumnType → Prop
  | otherType {column : Column} {cell : Value} {actual : ColumnType} : cell.type? = some actual →
      actual ≠ column.type → Refuses (column, cell) (column, actual)

theorem Column.refuses_iff {column : Column} {cell : Value} {found : Column × ColumnType} :
    Column.Refuses (column, cell) found ↔
      ∃ actual, cell.type? = some actual ∧ actual ≠ column.type ∧ found = (column, actual) := by
  constructor
  · rintro ⟨hactual, hother⟩
    exact ⟨_, hactual, hother, rfl⟩
  · rintro ⟨actual, hactual, hother, rfl⟩
    exact .otherType hactual hother

/-- What is reported of a row that does not fit. Where the number of cells is wrong their types do not
matter; else it is the leftmost of the cells that their columns refuse. -/
inductive Schema.RowFault (schema : Schema) (row : Row) : TableError → Prop
  | arity : row.cells.length ≠ schema.width →
      RowFault schema row (.arityMismatch row.key schema.width row.cells.length)
  | type {column : Column} {actual : ColumnType} : row.cells.length = schema.width →
      FirstFault (fun entry : Column × Value => entry.1.admits entry.2 = true) Column.Refuses
        (schema.columns.zip row.cells) (column, actual) →
      RowFault schema row (.typeMismatch row.key column.name column.type actual)

namespace Table

variable {table after : Table} {row : Row} {error : TableError}

theorem misfit?_eq_some_iff {columns : List Column} {cells : List Value}
    {found : Column × ColumnType} :
    misfit? columns cells = some found ↔
      FirstFault (fun entry : Column × Value => entry.1.admits entry.2 = true) Column.Refuses
        (columns.zip cells) found := by
  induction columns generalizing cells with
  | nil => simp [misfit?, FirstFault.not_nil]
  | cons column columns ih =>
    cases cells with
    | nil => simp [misfit?, FirstFault.not_nil]
    | cons cell cells =>
      rw [List.zip_cons_cons, FirstFault.cons_iff, ← ih, Column.refuses_iff, misfit?, Column.admits]
      cases cell.type? with
      | none => simp
      | some actual =>
        by_cases h : actual = column.type
        · simp [h]
        · simp [h, @eq_comm _ found]

/-- A table takes in no other row than those that fit, and tells what is wrong. -/
theorem push_eq_error_iff : table.push row = .error error ↔ table.schema.RowFault row error := by
  unfold push
  by_cases hlength : row.cells.length = table.schema.width
  · rw [if_neg (not_not_intro hlength)]
    constructor
    · intro herror
      cases hmisfit : misfit? table.schema.columns row.cells with
      | none =>
        rw [hmisfit] at herror
        cases herror
      | some found =>
        rw [hmisfit] at herror
        cases herror
        exact .type hlength (misfit?_eq_some_iff.mp hmisfit)
    · intro hfault
      cases hfault with
      | arity hother => exact absurd hlength hother
      | type _ hfirst => rw [misfit?_eq_some_iff.mpr hfirst]
  · rw [if_pos hlength]
    constructor
    · intro herror
      cases herror
      exact .arity hlength
    · intro hfault
      cases hfault with
      | arity _ => rfl
      | type hsame _ => exact absurd hsame hlength

theorem checks_push (table : Table) (row : Row) :
    Checks (table.push row) (table.schema.Fits row) { table with rows := table.rows ++ [row] }
      (table.schema.RowFault row) where
  ok hfits := push_eq_ok_iff.mpr ⟨hfits, rfl⟩
  error error hfault := push_eq_error_iff.mpr hfault
  decides := by
    cases hpush : table.push row with
    | ok pushed => exact .inl (push_eq_ok_iff.mp hpush).1
    | error error => exact .inr ⟨error, push_eq_error_iff.mp hpush⟩

/-! ## In place -/

/-- The table is replaced by the pushed one, and kept if the push fails. -/
theorem append_run :
    (append row).run table =
      match table.push row with
      | .ok pushed => .ok () pushed
      | .error error => .error error table := by
  simp only [append, EStateM.run_bind, EStateM.run_get]
  cases table.push row with
  | ok pushed => rfl
  | error error => rfl

/-- The two calls that add a row: a row as it is, or a key with its cells. -/
inductive Call where
  | whole (row : Row)
  | parts (key : String) (cells : List Value)

namespace Call

/-- The row that a call offers to the table. -/
def offered : Call → Row
  | whole row => row
  | parts key cells => ⟨key, cells⟩

def perform : Call → EStateM TableError Table Unit
  | whole row => append row
  | parts key cells => appendRow key cells

theorem perform_eq (call : Call) : call.perform = append call.offered := by
  cases call <;> rfl

theorem run_perform (call : Call) :
    call.perform.run table =
      match table.push call.offered with
      | .ok pushed => .ok () pushed
      | .error error => .error error table := by
  rw [perform_eq, append_run]

/-- A call succeeds if its row fits, and the table has then that row more. -/
theorem run_perform_ok_iff {call : Call} :
    call.perform.run table = .ok () after ↔
      table.schema.Fits call.offered ∧ after = { table with rows := table.rows ++ [call.offered] } := by
  rw [run_perform, ← push_eq_ok_iff]
  cases table.push call.offered <;> simp [eq_comm]

/-- A call that fails leaves the table alone. -/
theorem run_perform_error_iff {call : Call} :
    call.perform.run table = .error error after ↔
      table.schema.RowFault call.offered error ∧ after = table := by
  rw [run_perform, ← push_eq_error_iff]
  cases table.push call.offered <;> simp [eq_comm]

end Call

/-! ## Histories -/

/-- A table that calls were made on, and what each of them offered and was answered. -/
structure History where
  table : Table
  outcomes : List (Row × Except TableError Unit)

namespace History

def begin (schema : Schema) : History := ⟨.empty schema, []⟩

def next (past : History) (call : Call) : History :=
  match call.perform.run past.table with
  | .ok () table => ⟨table, past.outcomes ++ [(call.offered, .ok ())]⟩
  | .error error table => ⟨table, past.outcomes ++ [(call.offered, .error error)]⟩

/-- Makes the calls one after the other, on an empty table. -/
def run (schema : Schema) (calls : List Call) : History := calls.foldl next (.begin schema)

theorem run_concat (schema : Schema) (calls : List Call) (last : Call) :
    run schema (calls ++ [last]) = (run schema calls).next last := by
  rw [run, List.foldl_append]
  rfl

/-- The rows of the calls that succeeded. -/
def accepted (past : History) : List Row :=
  past.outcomes.filterMap fun outcome => outcome.2.toOption.map fun _ => outcome.1

/-- What holds at any time: the table has the rows that it accepted, and every call was answered as its
row fits the schema. -/
structure Sound (schema : Schema) (past : History) : Prop where
  schema_eq : past.table.schema = schema
  rows_eq : past.table.rows = past.accepted
  answered : ∀ outcome ∈ past.outcomes,
    Checks outcome.2 (schema.Fits outcome.1) () (schema.RowFault outcome.1)

theorem accepted_concat (past : History) (table : Table) (outcome : Row × Except TableError Unit) :
    accepted ⟨table, past.outcomes ++ [outcome]⟩ =
      past.accepted ++ (outcome.2.toOption.map fun _ => outcome.1).toList := by
  cases h : outcome.2.toOption <;> simp [accepted, h]

namespace Sound

variable {schema : Schema} {past : History}

theorem begin (schema : Schema) : (History.begin schema).Sound schema :=
  ⟨rfl, rfl, List.forall_mem_nil _⟩

theorem next (h : past.Sound schema) (call : Call) : (past.next call).Sound schema := by
  have hanswer := (checks_push past.table call.offered).map fun _ => ()
  rw [h.schema_eq] at hanswer
  unfold History.next
  rw [Call.run_perform]
  cases hpush : past.table.push call.offered with
  | ok pushed =>
    rw [hpush] at hanswer
    obtain ⟨-, rfl⟩ := push_eq_ok_iff.mp hpush
    refine ⟨h.schema_eq, ?_, List.forall_mem_append.mpr ⟨h.answered, ?_⟩⟩
    · rw [accepted_concat, ← h.rows_eq]
      rfl
    · exact List.forall_mem_singleton.mpr hanswer
  | error error =>
    rw [hpush] at hanswer
    refine ⟨h.schema_eq, ?_, List.forall_mem_append.mpr ⟨h.answered, ?_⟩⟩
    · rw [accepted_concat, ← h.rows_eq]
      exact (List.append_nil _).symm
    · exact List.forall_mem_singleton.mpr hanswer

/-- No calls change that. -/
theorem run (schema : Schema) (calls : List Call) : (History.run schema calls).Sound schema := by
  induction calls using List.reverseRecOn with
  | nil => exact .begin schema
  | append_singleton calls last ih =>
    rw [run_concat]
    exact ih.next last

end Sound

theorem offers_next (past : History) (call : Call) :
    (past.next call).outcomes.map Prod.fst = past.outcomes.map Prod.fst ++ [call.offered] := by
  unfold next
  cases call.perform.run past.table <;> simp

theorem offers_run (schema : Schema) (calls : List Call) :
    (run schema calls).outcomes.map Prod.fst = calls.map Call.offered := by
  induction calls using List.reverseRecOn with
  | nil => rfl
  | append_singleton calls last ih =>
    rw [run_concat, offers_next, ih, List.map_append, List.map_singleton]

/-- Tables that came about by calls are among those that there are. -/
theorem reachable_run (schema : Schema) (calls : List Call) : (run schema calls).table.Reachable := by
  induction calls using List.reverseRecOn with
  | nil => exact .empty schema
  | append_singleton calls last ih =>
    rw [run_concat, next, Call.run_perform]
    cases hpush : (run schema calls).table.push last.offered with
    | ok pushed => exact ih.push hpush
    | error error => exact ih

/-- After any calls on an empty table it has the schema it began with and the rows of the calls that
succeeded, in order, all of which fit. A call succeeds if and only if its row fits, and only appends it;
a call that fails reports what is wrong with its row and leaves the table as it was. -/
theorem run_atomic (schema : Schema) (calls : List Call) :
    let past := run schema calls
    past.table.schema = schema ∧
      past.outcomes.map Prod.fst = calls.map Call.offered ∧
      (∀ outcome ∈ past.outcomes, (outcome.2 = .ok () ↔ schema.Fits outcome.1) ∧
        ∀ error, outcome.2 = .error error ↔ schema.RowFault outcome.1 error) ∧
      past.table.rows = past.accepted ∧
      (∀ row ∈ past.table.rows, schema.Fits row) ∧
      ∀ (call : Call) (after : Table),
        (call.perform.run past.table = .ok () after ↔
          schema.Fits call.offered ∧ after = ⟨schema, past.table.rows ++ [call.offered]⟩) ∧
        ∀ error, call.perform.run past.table = .error error after ↔
          schema.RowFault call.offered error ∧ after = past.table := by
  intro past
  have hsound : past.Sound schema := .run schema calls
  have hfits := (reachable_run schema calls).fits
  rw [hsound.schema_eq] at hfits
  refine ⟨hsound.schema_eq, offers_run schema calls, fun outcome houtcome => ?_, hsound.rows_eq,
    hfits, fun call after => ⟨?_, fun error => ?_⟩⟩
  · have hanswer := hsound.answered outcome houtcome
    refine ⟨?_, fun error => hanswer.error_iff⟩
    rw [hanswer.ok_iff, and_iff_left rfl]
  · rw [Call.run_perform_ok_iff, hsound.schema_eq]
  · rw [Call.run_perform_error_iff, hsound.schema_eq]

/-- A missing cell stands anywhere, a narrower number does not stand in for a wider one, and the number
of cells comes before their types. -/
example :
    (run ⟨[⟨"size", .int64⟩]⟩ [.parts "a" [.null], .whole ⟨"b", [.int32 1]⟩, .parts "c" [.int64 2],
      .parts "d" [.utf8 "x", .null]]).outcomes.map Prod.snd =
      [.ok (), .error (.typeMismatch "b" "size" .int64 .int32), .ok (),
        .error (.arityMismatch "d" 1 2)] := rfl

end History

end Table

end TableScan
