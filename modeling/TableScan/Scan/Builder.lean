import TableScan.Scan.Stream
import TableScan.Table

/-!
Scan builders: options gathered for a source and its schema. The options may be set in any order
and any number of times; they are checked when the scan is planned or built.
-/

namespace TableScan

structure ScanBuilder where
  schema : Schema
  source : Feed
  options : ScanOptions

namespace ScanBuilder

def new (schema : Schema) (source : Feed) : ScanBuilder := ⟨schema, source, .unset⟩

def withOptions (builder : ScanBuilder) (options : ScanOptions) : ScanBuilder :=
  { builder with options }

def rowsFrom (builder : ScanBuilder) (position : Int) : ScanBuilder :=
  builder.withOptions (builder.options.rowsFrom position)

def rowsTo (builder : ScanBuilder) (position : Int) : ScanBuilder :=
  builder.withOptions (builder.options.rowsTo position)

def range (builder : ScanBuilder) (start stop : Int) : ScanBuilder :=
  builder.withOptions (builder.options.range (some start) (some stop))

def filter (builder : ScanBuilder) (predicate : Predicate) : ScanBuilder :=
  builder.withOptions (builder.options.filter predicate)

def project (builder : ScanBuilder) (columns : List Int) : ScanBuilder :=
  builder.withOptions (builder.options.project columns)

def plan (builder : ScanBuilder) : Logged (Except ScanError ScanPlan) :=
  ScanPlan.validate builder.schema builder.options

/-- Plans the scan and sets it up over the source. Whether it succeeds or fails, the source is not drawn
from: it is handed on to the stream as it is, and the answer has no trace to count draws in. -/
def build (builder : ScanBuilder) : Logged (Except ScanError RowStream) :=
  let planned := builder.plan
  { result := planned.result.map (·.stream builder.source)
    events := planned.events }

end ScanBuilder

/-- A scan over all rows of a table. They are a source that keeps to its end, but the stages of a scan
cannot tell it from one that is not asked again (`ScanPlan.run_trusting`). -/
def Table.scan (table : Table) : ScanBuilder :=
  .new table.schema (.ofRows table.rows)

end TableScan
