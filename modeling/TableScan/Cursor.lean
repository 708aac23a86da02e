import TableScan.Event
import TableScan.Predicate.Evaluate

/-!
Cursors: rows handed out one at a time. A cursor is asked whether a row is there and for the row
itself; both questions may move it. Every reply carries a trace of what the call did elsewhere. A
cursor also bounds the rows that it can still hand out, which is why pulling from it ends.
-/

namespace TableScan

/-- What calls on a cursor did besides answering: how often the source was drawn from, which tests
of the caller ran, and what was logged. -/
@[ext] structure Trace where
  draws : Nat
  calls : List Call
  events : List Event
deriving DecidableEq

namespace Trace

def empty : Trace := ⟨0, [], []⟩

/-- What two calls did one after the other. -/
instance : Append Trace where
  append a b := ⟨a.draws + b.draws, a.calls ++ b.calls, a.events ++ b.events⟩

def ofDraws (n : Nat) : Trace := ⟨n, [], []⟩

def ofCalls (calls : List Call) : Trace := ⟨0, calls, []⟩

def ofEvent (event : Event) : Trace := ⟨0, [], [event]⟩

@[simp] theorem draws_append (a b : Trace) : (a ++ b).draws = a.draws + b.draws := rfl

@[simp] theorem calls_append (a b : Trace) : (a ++ b).calls = a.calls ++ b.calls := rfl

@[simp] theorem events_append (a b : Trace) : (a ++ b).events = a.events ++ b.events := rfl

@[simp] theorem empty_append (a : Trace) : empty ++ a = a :=
  Trace.ext (Nat.zero_add _) rfl rfl

@[simp] theorem append_empty (a : Trace) : a ++ empty = a :=
  Trace.ext rfl (List.append_nil _) (List.append_nil _)

theorem append_assoc (a b c : Trace) : a ++ b ++ c = a ++ (b ++ c) :=
  Trace.ext (Nat.add_assoc _ _ _) (List.append_assoc _ _ _) (List.append_assoc _ _ _)

end Trace

/-- The outcome of one call: the answer, the state it leaves, and its trace. -/
@[ext] structure Reply (σ α : Type) where
  answer : α
  state : σ
  trace : Trace

namespace Reply

variable {σ α β : Type}

/-- The reply of a call that had others go before it. -/
def after (trace : Trace) (reply : Reply σ α) : Reply σ α :=
  { reply with trace := trace ++ reply.trace }

def map (f : α → β) (reply : Reply σ α) : Reply σ β :=
  ⟨f reply.answer, reply.state, reply.trace⟩

end Reply

/-- How many rows an answer to a request for one hands out. -/
def rowsIn : Except ScanError Row → Nat
  | .ok _ => 1
  | .error _ => 0

/-- How rows are pulled from a state. `left` bounds the rows to come: looking ahead does not raise
it and every row handed out lowers it. So no cursor goes on for ever; a base that may do so is met
through its truncations (`Puller.truncated`), which do what it does for any number of requests. -/
structure Cursor (σ : Type) where
  /-- Whether a row can be had. -/
  hasNext : σ → Reply σ Bool
  /-- The next row, or the reason why there is none. -/
  nextRow : σ → Reply σ (Except ScanError Row)
  left : σ → Nat
  left_hasNext : ∀ s, left (hasNext s).state ≤ left s
  left_nextRow : ∀ s, left (nextRow s).state + rowsIn (nextRow s).answer ≤ left s

namespace Cursor

variable {σ : Type}

theorem left_lt_of_ok (c : Cursor σ) {s : σ} {row : Row}
    (h : (c.nextRow s).answer = .ok row) : c.left (c.nextRow s).state < c.left s := by
  have hl := c.left_nextRow s
  rw [h] at hl
  exact hl

theorem left_nextRow_le (c : Cursor σ) (s : σ) : c.left (c.nextRow s).state ≤ c.left s :=
  Nat.le_trans (Nat.le_add_right _ _) (c.left_nextRow s)

end Cursor

end TableScan
