import Mathlib.Data.List.Induction
import TableScan.Proofs.Bisimulation

/-!
Scripts: all that a cursor has yet to do, written down in advance. A script tells for each row to
come what is done until it is found, and what is done until the end is seen. A script is a cursor
itself, and everything a run answers and leaves behind can be read off it.
-/

namespace TableScan

inductive Script where
  /-- There is no row, which is seen after so much is done. -/
  | stop (trace : Trace)
  /-- A row is found after so much is done; then it goes on. -/
  | found (trace : Trace) (row : Row) (rest : Script)

namespace Script

def rows : Script → List Row
  | stop _ => []
  | found _ row rest => row :: rest.rows

/-- What is left to do once the first row, or the end, has been looked for. -/
def looked : Script → Script
  | stop _ => stop .empty
  | found _ row rest => found .empty row rest

/-- What is left to do once so many rows have been handed out. -/
def drop : Nat → Script → Script
  | 0, s => s
  | _ + 1, stop _ => stop .empty
  | n + 1, found _ _ rest => rest.drop n

/-- What is done by looking for so many rows, one after the other. -/
def spent : Nat → Script → Trace
  | 0, _ => .empty
  | _ + 1, stop trace => trace
  | n + 1, found trace _ rest => trace ++ rest.spent n

/-- More is done before the first row is found. -/
def after (before : Trace) : Script → Script
  | stop trace => stop (before ++ trace)
  | found trace row rest => found (before ++ trace) row rest

def hasNext (s : Script) : Reply Script Bool := ⟨!s.rows.isEmpty, s.looked, s.spent 1⟩

def nextRow : Script → Reply Script (Except ScanError Row)
  | stop trace => ⟨.error .noSuchElement, stop .empty, trace⟩
  | found trace row rest => ⟨.ok row, rest, trace⟩

@[simp] theorem rows_looked (s : Script) : s.looked.rows = s.rows := by cases s <;> rfl

@[simp] theorem rows_after (before : Trace) (s : Script) : (s.after before).rows = s.rows := by
  cases s <;> rfl

theorem rows_drop (n : Nat) (s : Script) : (s.drop n).rows = s.rows.drop n := by
  fun_induction drop n s with
  | case1 s => rfl
  | case2 n trace => rfl
  | case3 n trace row rest ih => simpa [rows] using ih

theorem drop_drop (m n : Nat) (s : Script) : (s.drop m).drop n = s.drop (m + n) := by
  fun_induction drop m s with
  | case1 s => rw [Nat.zero_add]
  | case2 m trace => cases n <;> simp [drop]
  | case3 m trace row rest ih => simpa [drop, Nat.add_right_comm m 1] using ih

/-- What is done for more rows is done for the first of them, and then for the others. -/
theorem spent_add (m n : Nat) (s : Script) : s.spent (m + n) = s.spent m ++ (s.drop m).spent n := by
  fun_induction drop m s with
  | case1 s => simp [spent]
  | case2 m trace => cases n <;> simp [spent]
  | case3 m trace row rest ih => simp [spent, Nat.add_right_comm m 1, ih, Trace.append_assoc]

def cursor : Cursor Script where
  hasNext := hasNext
  nextRow := nextRow
  left s := s.rows.length
  left_hasNext s := by simp [hasNext]
  left_nextRow s := by cases s <;> simp [nextRow, rows, rowsIn]

@[simp] theorem cursor_hasNext (s : Script) : cursor.hasNext s = s.hasNext := rfl

@[simp] theorem cursor_nextRow (s : Script) : cursor.nextRow s = s.nextRow := rfl

@[simp] theorem hasNext_found (trace : Trace) (row : Row) (rest : Script) :
    (found trace row rest).hasNext = ⟨true, found .empty row rest, trace⟩ := by
  simp [hasNext, rows, looked, spent]

@[simp] theorem nextRow_found (trace : Trace) (row : Row) (rest : Script) :
    (found trace row rest).nextRow = ⟨.ok row, rest, trace⟩ := rfl

/-! ## Runs on a script -/

/-- The script as it stands after looking for its first row, or as it is. -/
def ahead : Bool → Script → Script
  | true, s => s.looked
  | false, s => s

theorem ask_eq (s : Script) (call : Request) :
    cursor.ask s call =
      let response := call.expected s.rows 0
      ⟨response, if response.handed?.isSome then s.drop 1 else s.looked, s.spent 1⟩ := by
  cases s with
  | stop trace => cases call <;> rfl
  | found trace row rest =>
    rw [show (found trace row rest).spent 1 = trace from Trace.append_empty trace]
    cases call with
    | hasNext => simp [Cursor.ask, cursor, hasNext, spent, Reply.map, rows, Request.expected,
        Response.handed?]
    | nextRow => rfl
    | next => simp [Cursor.ask, Cursor.next, cursor, hasNext, nextRow, looked, spent, Reply.map,
        Reply.after, rows, Request.expected, Response.handed?, Except.toOption, drop]

/-- What was looked for before is not looked for again. -/
theorem ask_ahead (asked : Bool) (s : Script) (call : Request) :
    cursor.ask (s.ahead asked) call =
      let response := call.expected s.rows 0
      ⟨response, if response.handed?.isSome then s.drop 1 else s.looked,
        if asked then .empty else s.spent 1⟩ := by
  rw [ask_eq]
  cases asked with
  | false => rfl
  | true => cases s <;> rfl

theorem expected_drop (rows : List Row) (n : Nat) (call : Request) :
    call.expected (rows.drop n) 0 = call.expected rows n := by
  cases call with
  | hasNext => simp only [Request.expected, List.length_drop, Nat.sub_pos_iff_lt]
  | nextRow => simp [Request.expected]
  | next => simp [Request.expected]

theorem handed?_expected (rows : List Row) (n : Nat) (call : Request) :
    (call.expected rows n).handed? = none ∨ (call.expected rows n).handed? = rows[n]? := by
  cases call with
  | hasNext => exact .inl rfl
  | nextRow => cases h : rows[n]? <;> simp [Request.expected, Response.handed?, h, Except.toOption]
  | next => exact .inr rfl

theorem spent_succ (n : Nat) (asked : Bool) (s : Script) :
    s.spent (n + asked.toNat) ++ (if asked then .empty else (s.drop n).spent 1) =
      s.spent (n + 1) := by
  cases asked with
  | false => exact (spent_add n 1 s).symm
  | true => exact Trace.append_empty _

/-- The outcome of a run: the first rows were handed out, each found once, and the row after them was
looked for if the last call was not a hand-out. The induction is on the last call. -/
theorem run_eq (s : Script) (calls : List Request) :
    let reply := cursor.run calls s
    let count := (handedOut reply.answer).length
    let asked := lookedAhead reply.answer
    handedOut reply.answer = s.rows.take count ∧ reply.state = (s.drop count).ahead asked ∧
      reply.trace = s.spent (count + asked.toNat) := by
  induction calls using List.reverseRecOn with
  | nil => exact ⟨rfl, rfl, rfl⟩
  | append_singleton calls call ih =>
    simp only [Cursor.run] at ih ⊢
    rw [runWith_concat]
    generalize runWith cursor.ask calls s = past at ih ⊢
    obtain ⟨hrows, hstate, htrace⟩ := ih
    simp only [hstate, htrace, ask_ahead, rows_drop, expected_drop, spent_succ,
      handedOut_concat, lookedAhead_concat]
    have hx := handed?_expected s.rows (handedOut past.answer).length call
    cases h : (call.expected s.rows (handedOut past.answer).length).handed? with
    | none =>
      simp only [Option.toList_none, List.append_nil]
      exact ⟨hrows, rfl, rfl⟩
    | some row =>
      have hrow : s.rows[(handedOut past.answer).length]? = some row := by simpa [h, eq_comm] using hx
      simp only [Option.toList_some, List.length_append, List.length_singleton]
      refine ⟨?_, ?_, rfl⟩
      · rw [List.take_add_one, hrow, ← hrows]
        rfl
      · exact drop_drop _ 1 s

theorem serves (s : Script) : Serves cursor.ask s s.rows := by
  intro calls call
  obtain ⟨hrows, hstate, -⟩ := run_eq s calls
  simp only [Cursor.run] at hrows hstate
  simp only [hstate, ask_ahead, rows_drop, expected_drop]
  exact ⟨hrows, trivial⟩

theorem next_eq (s : Script) :
    cursor.next s = ⟨s.rows.head?, if s.rows.isEmpty then s.looked else s.drop 1, s.spent 1⟩ := by
  cases s with
  | stop trace => rfl
  | found trace row rest =>
    simp [Cursor.next, cursor, hasNext, nextRow, looked, spent, Reply.map, Reply.after, rows,
      Except.toOption, drop]

/-- Taking rows looks for no more than it takes. -/
theorem take_eq (n : Nat) (s : Script) :
    (cursor.take n s).answer = s.rows.take n ∧ (cursor.take n s).trace = s.spent n := by
  induction n generalizing s with
  | zero => exact ⟨rfl, rfl⟩
  | succ n ih =>
    simp only [Cursor.take, next_eq]
    cases s with
    | stop trace => exact ⟨rfl, rfl⟩
    | found trace row rest =>
      obtain ⟨hrows, htrace⟩ := ih rest
      refine ⟨congrArg (row :: ·) hrows, ?_⟩
      simp [Reply.after, Reply.map, rows, drop, spent, htrace]

end Script

end TableScan
