import TableScan.Cursor.Drain
import TableScan.Cursor.Lookahead
import TableScan.Cursor.Stack
import TableScan.Scan.Plan

/-!
Row streams: a plan at work on a source. A stream can be asked like a cursor or read as a plain
sequence of rows.
-/

namespace TableScan

structure RowStream where
  schema : Schema
  stages : List Stage
  state : Stack.State Lookahead stages

/-- A plan over a source. Nothing is drawn yet. -/
def ScanPlan.stream (plan : ScanPlan) (source : Feed) : RowStream :=
  { schema := plan.schema
    stages := plan.stages
    state := Stack.start (Lookahead.start source) plan.stages }

namespace RowStream

def cursor (stream : RowStream) : Cursor (Stack.State Lookahead stream.stages) :=
  Stack.cursor Lookahead.cursor stream.stages

/-- The stream after a call on its cursor. -/
def advance {α : Type} (stream : RowStream)
    (reply : Reply (Stack.State Lookahead stream.stages) α) : Reply RowStream α :=
  ⟨reply.answer, { stream with state := reply.state }, reply.trace⟩

def hasNext (stream : RowStream) : Reply RowStream Bool :=
  stream.advance (stream.cursor.hasNext stream.state)

def nextRow (stream : RowStream) : Reply RowStream (Except ScanError Row) :=
  stream.advance (stream.cursor.nextRow stream.state)

def next (stream : RowStream) : Reply RowStream (Option Row) :=
  stream.advance (stream.cursor.next stream.state)

def take (stream : RowStream) (count : Nat) : Reply RowStream (List Row) :=
  stream.advance (stream.cursor.take count stream.state)

def collect (stream : RowStream) : Reply RowStream (List Row) :=
  stream.advance (stream.cursor.collect stream.state)

def drain (stream : RowStream) : Reply RowStream (List (Except ScanError Row)) :=
  stream.advance (stream.cursor.drain stream.state)

def keys (stream : RowStream) : Reply RowStream (List String) :=
  stream.collect.map fun rows => rows.map Row.key

/-- The number of rows that were still to come. -/
def count (stream : RowStream) : Reply RowStream Nat :=
  stream.collect.map List.length

def description (stream : RowStream) : String :=
  "RowStream \x7b columns: " ++ stream.schema.width.repr ++ ", .. \x7d"

end RowStream

end TableScan
