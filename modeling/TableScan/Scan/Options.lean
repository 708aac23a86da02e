import TableScan.Predicate

/-!
Scan options: a window of row positions, a predicate and a projection, each of which may be left
open. Options are only written down here; whether they fit a source is decided when a scan is
planned. Every setter replaces what was set before.
-/

namespace TableScan

structure ScanOptions where
  /-- The first position of the window. -/
  start : Option Int
  /-- The last position of the window. -/
  stop : Option Int
  predicate : Option Predicate
  /-- The columns to hand out, in order. -/
  projection : Option (List Int)

namespace ScanOptions

def unset : ScanOptions := ⟨none, none, none, none⟩

instance : Inhabited ScanOptions := ⟨unset⟩

def rowsFrom (options : ScanOptions) (position : Int) : ScanOptions :=
  { options with start := some position }

def rowsTo (options : ScanOptions) (position : Int) : ScanOptions :=
  { options with stop := some position }

/-- Sets both ends of the window; an end that is not given is open. -/
def range (options : ScanOptions) (start stop : Option Int) : ScanOptions :=
  { options with start, stop }

def filter (options : ScanOptions) (predicate : Predicate) : ScanOptions :=
  { options with predicate := some predicate }

def project (options : ScanOptions) (columns : List Int) : ScanOptions :=
  { options with projection := some columns }

end ScanOptions

end TableScan
