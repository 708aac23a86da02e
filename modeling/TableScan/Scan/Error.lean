import TableScan.Predicate.Validate

/-!
What can go wrong with a scan: its options do not fit the source, or a row is asked for when there
is none.
-/

namespace TableScan

inductive ScanError where
  | negativeStart (bound : Int)
  | negativeEnd (bound : Int)
  | startAfterEnd (start stop : Nat)
  | incompatible (mismatch : Mismatch)
  | columnOutOfBounds (index : Int) (count : Nat)
  | noSuchElement
deriving DecidableEq

namespace ScanError

def message : ScanError → String
  | negativeStart bound =>
    "invalid argument: range start must be non-negative, got " ++ bound.repr
  | negativeEnd bound =>
    "invalid argument: range end must be non-negative, got " ++ bound.repr
  | startAfterEnd start stop =>
    "invalid argument: range start after end: " ++ start.repr ++ " > " ++ stop.repr
  | incompatible mismatch => "invalid argument: " ++ mismatch.message
  | columnOutOfBounds index count =>
    "column index " ++ index.repr ++ " out of bounds for schema with " ++ count.repr ++ " columns"
  | noSuchElement => "no such element: row iterator is exhausted"

/-- What a fault of the predicate means for the scan. -/
def ofValidation : ValidationError → ScanError
  | .columnOutOfRange index count => columnOutOfBounds index count
  | .incompatible mismatch => incompatible mismatch

end ScanError

end TableScan
