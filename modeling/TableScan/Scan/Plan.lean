import TableScan.Cursor.Stack
import TableScan.Scan.Options
import TableScan.Schema

/-!
Scan plans: options that were checked against a schema. The bounds of a plan are positions in
order, its predicate fits the schema and its projected columns exist. Of several faults the first
is reported, in the order window, predicate, projection.
-/

namespace TableScan

structure ScanPlan where
  start : Nat
  stop : Option Nat
  predicate : Option Predicate
  projection : Option (List Nat)
  /-- The columns of the rows that are handed out. -/
  schema : Schema

namespace ScanPlan

/-- A bound must not be negative. -/
def checkBound (fault : Int → ScanError) : Option Int → Except ScanError (Option Nat)
  | none => .ok none
  | some bound =>
    match bound.toNat? with
    | some position => .ok (some position)
    | none => .error (fault bound)

def checkWindow (options : ScanOptions) : Except ScanError (Option Nat × Option Nat) := do
  let start ← checkBound .negativeStart options.start
  let stop ← checkBound .negativeEnd options.stop
  match start, stop with
  | some first, some last =>
    if last < first then .error (.startAfterEnd first last) else .ok (start, stop)
  | _, _ => .ok (start, stop)

def checkPredicate (schema : Schema) : Option Predicate → Except ScanError Unit
  | none => .ok ()
  | some predicate => (predicate.validate schema.catalog).mapError ScanError.ofValidation

def checkColumn (schema : Schema) (index : Int) : Except ScanError Nat :=
  match schema.catalog.resolve? index with
  | some position => .ok position
  | none => .error (.columnOutOfBounds index schema.width)

def checkProjection (schema : Schema) : Option (List Int) → Except ScanError (Option (List Nat))
  | none => .ok none
  | some columns => (columns.mapM (checkColumn schema)).map some

def outputSchema (schema : Schema) : Option (List Nat) → Schema
  | none => schema
  | some columns => schema.project columns

def check (schema : Schema) (options : ScanOptions) : Except ScanError ScanPlan := do
  let (start, stop) ← checkWindow options
  checkPredicate schema options.predicate
  let projection ← checkProjection schema options.projection
  return {
    start := start.getD 0
    stop := stop
    predicate := options.predicate
    projection := projection
    schema := outputSchema schema projection }

/-- Checks options and logs the outcome. -/
def validate (schema : Schema) (options : ScanOptions) : Logged (Except ScanError ScanPlan) :=
  let result := check schema options
  { result := result
    events := match result with
      | .ok plan =>
        [.planBuilt plan.start plan.stop (plan.predicate.map Predicate.referencedColumns)
          (plan.projection.map List.length)]
      | .error error => [.planRejected error] }

/-- The stages of the plan from the source outward. Positions are those of the source, and the
predicate is evaluated on full rows. -/
def stages (plan : ScanPlan) : List Stage :=
  .range plan.start plan.stop ::
    ((plan.predicate.map Stage.filter).toList ++ (plan.projection.map Stage.project).toList)

end ScanPlan

end TableScan
