import TableScan.Scan.Builder

/-!
Runs: any calls on a cursor or a stream, one after the other. A subject serves a list of rows if no
run can tell it from a hand that deals the rows of the list out one by one.
-/

namespace TableScan

/-- The calls that can be made. -/
inductive Request where
  | hasNext
  | nextRow
  | next
deriving DecidableEq

/-- Whether a call only asks if there is a row. -/
def Request.looks : Request → Bool
  | hasNext => true
  | _ => false

inductive Response where
  | promise (more : Bool)
  | row (answer : Except ScanError Row)
  | item (found : Option Row)

/-- Whether this is what a look is answered. -/
def Response.promises : Response → Bool
  | promise _ => true
  | _ => false

/-- The row that a call handed out, if it did. -/
def Response.handed? : Response → Option Row
  | promise _ => none
  | row answer => answer.toOption
  | item found => found

theorem rowsIn_eq (answer : Except ScanError Row) :
    rowsIn answer = answer.toOption.toList.length := by
  cases answer <;> rfl

/-- The rows that a run handed out, in order. -/
def handedOut (responses : List Response) : List Row := responses.filterMap Response.handed?

theorem handedOut_concat (responses : List Response) (last : Response) :
    handedOut (responses ++ [last]) = handedOut responses ++ last.handed?.toList := by
  cases h : last.handed? <;> simp [handedOut, h]

/-- Whether the last call of a run handed out nothing. Such a call has looked for the next row. -/
def lookedAhead (responses : List Response) : Bool :=
  responses.getLast?.any (·.handed?.isNone)

@[simp] theorem lookedAhead_concat (responses : List Response) (last : Response) :
    lookedAhead (responses ++ [last]) = last.handed?.isNone := by
  simp [lookedAhead]

theorem of_last_handed {responses : List Response} {row : Row}
    (h : responses.getLast?.bind Response.handed? = some row) :
    lookedAhead responses = false ∧ 0 < (handedOut responses).length := by
  obtain ⟨last, hlast, hrow⟩ := Option.bind_eq_some_iff.mp h
  refine ⟨by simp [lookedAhead, hlast, hrow], ?_⟩
  exact List.length_pos_of_mem
    (List.mem_filterMap.mpr ⟨last, List.mem_of_getLast? hlast, hrow⟩)

section
variable {σ : Type} (ask : σ → Request → Reply σ Response)

/-- Makes the calls one after the other. -/
def runWith : List Request → σ → Reply σ (List Response)
  | [], s => ⟨[], s, .empty⟩
  | call :: calls, s =>
    let first := ask s call
    ((runWith calls first.state).map (first.answer :: ·)).after first.trace

theorem runWith_append (first rest : List Request) (s : σ) :
    runWith ask (first ++ rest) s =
      ((runWith ask rest (runWith ask first s).state).map ((runWith ask first s).answer ++ ·)).after
        (runWith ask first s).trace := by
  induction first generalizing s with
  | nil => simp [runWith, Reply.after, Reply.map]
  | cons call calls ih =>
    simp only [List.cons_append, runWith, ih]
    simp [Reply.after, Reply.map, Trace.append_assoc]

/-- A run that is one call longer. -/
theorem runWith_concat (calls : List Request) (call : Request) (s : σ) :
    runWith ask (calls ++ [call]) s =
      let past := runWith ask calls s
      let last := ask past.state call
      ⟨past.answer ++ [last.answer], last.state, past.trace ++ last.trace⟩ := by
  simp [runWith_append, runWith, Reply.after, Reply.map]

theorem length_runWith (calls : List Request) (s : σ) :
    (runWith ask calls s).answer.length = calls.length := by
  induction calls generalizing s with
  | nil => rfl
  | cons call calls ih => exact congrArg (· + 1) (ih _)

/-- What a call is answered once the first `count` rows of a list have been handed out. -/
def Request.expected (rows : List Row) (count : Nat) : Request → Response
  | hasNext => .promise (decide (count < rows.length))
  | nextRow => .row (rows[count]?.elim (.error .noSuchElement) .ok)
  | next => .item rows[count]?

/-- Whatever calls were made, the rows handed out so far are the first of the list, and the next
call, of any kind, is answered by the row that follows them. -/
def Serves (s : σ) (rows : List Row) : Prop :=
  ∀ (calls : List Request) (call : Request),
    let past := runWith ask calls s
    let count := (handedOut past.answer).length
    handedOut past.answer = rows.take count ∧
      (ask past.state call).answer = call.expected rows count

end

namespace Cursor

variable {σ : Type}

def ask (c : Cursor σ) (s : σ) : Request → Reply σ Response
  | .hasNext => (c.hasNext s).map .promise
  | .nextRow => (c.nextRow s).map .row
  | .next => (c.next s).map .item

def run (c : Cursor σ) : List Request → σ → Reply σ (List Response) := runWith c.ask

theorem ask_next_of_refused {c : Cursor σ} {s : σ} (h : (c.hasNext s).answer = false) :
    c.ask s .next = ⟨.item none, (c.hasNext s).state, (c.hasNext s).trace⟩ := by
  simp [ask, next, h, Reply.map]

/-- Where a row is promised, it is requested as well. -/
theorem ask_next_of_promised {c : Cursor σ} {s : σ} (h : (c.hasNext s).answer = true) :
    c.ask s .next =
      ((c.nextRow (c.hasNext s).state).map (Response.item ·.toOption)).after (c.hasNext s).trace := by
  simp [ask, next, h, Reply.map, Reply.after]

/-- Where both kinds of calls are the same but for what was done before them, all calls are. -/
theorem ask_of_later {c : Cursor σ} {s t : σ} {trace : Trace}
    (hlook : c.hasNext s = (c.hasNext t).after trace)
    (hrow : c.nextRow s = (c.nextRow t).after trace) (call : Request) :
    c.ask s call = (c.ask t call).after trace := by
  cases call with
  | hasNext => rw [ask, hlook]; rfl
  | nextRow => rw [ask, hrow]; rfl
  | next =>
    cases h : (c.hasNext t).answer with
    | true =>
      rw [ask_next_of_promised h, ask_next_of_promised (by rw [hlook]; exact h), hlook, Reply.after,
        Reply.after, Reply.after, Reply.after, Trace.append_assoc]
    | false =>
      rw [ask_next_of_refused h, ask_next_of_refused (by rw [hlook]; exact h), hlook]
      rfl

/-- Where looks and requests find nothing and do nothing, a run finds nothing and does nothing. -/
theorem run_of_idle {c : Cursor σ} {s : σ} (hlook : c.hasNext s = ⟨false, s, .empty⟩)
    (hrow : c.nextRow s = ⟨.error .noSuchElement, s, .empty⟩) (calls : List Request) :
    c.run calls s = ⟨calls.map (·.expected [] 0), s, .empty⟩ := by
  have hask : ∀ call, c.ask s call = ⟨call.expected [] 0, s, .empty⟩ := by
    intro call
    cases call with
    | hasNext => rw [ask, hlook]; rfl
    | nextRow => rw [ask, hrow]; rfl
    | next => rw [ask, next, hlook]; rfl
  induction calls with
  | nil => rfl
  | cons call calls ih =>
    simp only [run] at ih ⊢
    rw [runWith, hask, ih]
    rfl

end Cursor

namespace RowStream

def ask (stream : RowStream) : Request → Reply RowStream Response
  | .hasNext => stream.hasNext.map .promise
  | .nextRow => stream.nextRow.map .row
  | .next => stream.next.map .item

def run : List Request → RowStream → Reply RowStream (List Response) := runWith ask

theorem ask_eq (stream : RowStream) (call : Request) :
    stream.ask call = stream.advance (stream.cursor.ask stream.state call) := by
  cases call <;> rfl

/-- A stream does what its cursor does. -/
theorem run_eq (stream : RowStream) (calls : List Request) :
    run calls stream = stream.advance (stream.cursor.run calls stream.state) := by
  induction calls generalizing stream with
  | nil => rfl
  | cons call calls ih =>
    have h := ih (stream.ask call).state
    rw [ask_eq] at h
    simp only [run, runWith] at h ⊢
    rw [ask_eq, h]
    rfl

end RowStream

end TableScan
