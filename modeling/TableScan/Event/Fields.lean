import TableScan.Event
import TableScan.Text.Quoted

/-!
The fields of a log event as text: the component it comes from, its name, and its data.
-/

namespace TableScan

inductive Event.Level where
  | debug
  | trace
deriving DecidableEq

def Event.Level.name : Event.Level → String
  | debug => "DEBUG"
  | trace => "TRACE"

namespace Event

/-- A value that may be absent. -/
def optional {α : Type} (render : α → String) : Option α → String
  | none => "None"
  | some a => "Some(" ++ render a ++ ")"

def bracketed (texts : List String) : String := "[" ++ ", ".intercalate texts ++ "]"

/-- Exhaustion happens within a scan and is finer grained than planning and loading. -/
def level : Event → Level
  | rangeExhausted _ | filterExhausted _ _ => .trace
  | _ => .debug

def component : Event → String
  | planBuilt .. | planRejected _ => "plan"
  | rangeExhausted _ => "range"
  | filterExhausted _ _ => "filter"
  | tableLoaded .. => "table"

def name : Event → String
  | planBuilt .. => "scan_plan_built"
  | planRejected _ => "scan_plan_rejected"
  | rangeExhausted _ => "range_exhausted"
  | filterExhausted _ _ => "filter_exhausted"
  | tableLoaded .. => "table_loaded"

def data : Event → List (String × String)
  | planBuilt start stop columns width =>
    [("from", start.repr), ("to", optional Nat.repr stop),
      ("predicate_columns", optional (fun cs => bracketed (cs.map Int.repr)) columns)] ++
    width.toList.map fun w => ("projection_width", w.repr)
  | planRejected error => [("error", error.message)]
  | rangeExhausted consumed => [("consumed", consumed.repr)]
  | filterExhausted examined rejected =>
    [("examined", examined.repr), ("rejected", rejected.repr)]
  | tableLoaded rows columns keyColumn =>
    [("rows", rows.repr), ("columns", columns.repr),
      ("key_column", optional Quoted.quote keyColumn)]

def fields (e : Event) : List (String × String) :=
  ("component", e.component) :: ("event", e.name) :: e.data

end Event

end TableScan
