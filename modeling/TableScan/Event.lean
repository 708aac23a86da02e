import TableScan.Scan.Error

/-!
Log events. Work that is logged answers with the events it gave rise to, in order.
-/

namespace TableScan

inductive Event where
  | planBuilt (start : Nat) (stop : Option Nat) (predicateColumns : Option (List Int))
      (projectionWidth : Option Nat)
  | planRejected (error : ScanError)
  /-- A range stage has come to its end after so many rows of its input. -/
  | rangeExhausted (consumed : Nat)
  /-- A filter stage has come to its end. -/
  | filterExhausted (examined rejected : Nat)
  | tableLoaded (rows columns : Nat) (keyColumn : Option String)
deriving DecidableEq

/-- A result with what was logged on the way. It carries no trace of a source, so nothing is drawn from
one by work that answers like this. -/
structure Logged (α : Type) where
  result : α
  events : List Event

end TableScan
