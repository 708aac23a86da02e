import TableScan.Binary64
import TableScan.Binary64.Shortest
import TableScan.Binary64.Text
import TableScan.Catalog
import TableScan.ColumnArray
import TableScan.ColumnRef
import TableScan.ColumnType
import TableScan.Cursor
import TableScan.Cursor.Drain
import TableScan.Cursor.Faulty
import TableScan.Cursor.Filter
import TableScan.Cursor.Lookahead
import TableScan.Cursor.Project
import TableScan.Cursor.Range
import TableScan.Cursor.Stack
import TableScan.Event
import TableScan.Event.Fields
import TableScan.FieldType
import TableScan.Operator
import TableScan.Predicate
import TableScan.Predicate.Evaluate
import TableScan.Predicate.Text
import TableScan.Predicate.Validate
import TableScan.Proofs.Batch
import TableScan.Proofs.Batch.Faults
import TableScan.Proofs.Batch.Keys
import TableScan.Proofs.Batch.Transposed
import TableScan.Proofs.Binary64
import TableScan.Proofs.Binary64.Monotone
import TableScan.Proofs.Bisimulation
import TableScan.Proofs.Faults
import TableScan.Proofs.Faulty
import TableScan.Proofs.Faulty.Filter
import TableScan.Proofs.Faulty.Range
import TableScan.Proofs.Foresight
import TableScan.Proofs.Lookahead
import TableScan.Proofs.Pipeline
import TableScan.Proofs.Plan
import TableScan.Proofs.Plan.Checks
import TableScan.Proofs.Predicate.Accessor
import TableScan.Proofs.Predicate.Joined
import TableScan.Proofs.Predicate.Leaves
import TableScan.Proofs.Predicate.Leftmost
import TableScan.Proofs.Predicate.Reads
import TableScan.Proofs.Predicate.Renaming
import TableScan.Proofs.Predicate.ShortCircuit
import TableScan.Proofs.Predicate.Text
import TableScan.Proofs.Predicate.Typed
import TableScan.Proofs.Recorder
import TableScan.Proofs.Recorder.Filter
import TableScan.Proofs.Recorder.Range
import TableScan.Proofs.Recorder.Stack
import TableScan.Proofs.Run
import TableScan.Proofs.Scan.Calls
import TableScan.Proofs.Scan.Degraded
import TableScan.Proofs.Scan.Draws
import TableScan.Proofs.Scan.Ends
import TableScan.Proofs.Scan.Fits
import TableScan.Proofs.Scan.Pages
import TableScan.Proofs.Scan.Pruned
import TableScan.Proofs.Scan.Rows
import TableScan.Proofs.Scan.Settings
import TableScan.Proofs.Script
import TableScan.Proofs.Script.Reach
import TableScan.Proofs.Script.Stack
import TableScan.Proofs.Simulation
import TableScan.Proofs.Stage.Fusion
import TableScan.Proofs.Stage.Projection
import TableScan.Proofs.Table
import TableScan.Proofs.Table.History
import TableScan.Proofs.Table.Reader
import TableScan.Proofs.Truncation
import TableScan.Proofs.Trusting
import TableScan.Proofs.Value
import TableScan.Proofs.Value.Acyclic
import TableScan.Proofs.Value.Compared
import TableScan.Proofs.Value.Order
import TableScan.Proofs.Value.Text
import TableScan.RecordBatch
import TableScan.Row
import TableScan.Scan.Builder
import TableScan.Scan.Error
import TableScan.Scan.Options
import TableScan.Scan.Plan
import TableScan.Scan.Stream
import TableScan.Schema
import TableScan.Table
import TableScan.Table.Reader
import TableScan.Text.Quoted
import TableScan.Text.Unprintable
import TableScan.Utf8
import TableScan.Value
import TableScan.Value.Compare
import TableScan.Value.Text
