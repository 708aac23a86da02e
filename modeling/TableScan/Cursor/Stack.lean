import TableScan.Cursor.Filter
import TableScan.Cursor.Project
import TableScan.Cursor.Range

/-!
Stacks of stages over a base cursor. A stack is written as the list of its stages from the base
outward: the first stage pulls from the base, each later one from the stage before it, and calls go
to the last.
-/

namespace TableScan

inductive Stage where
  | range (first : Nat) (last : Option Nat)
  | filter (predicate : Predicate)
  | project (columns : List Nat)

/-- What a stage tells about itself: a range how many rows it pulled, a filter how many it turned
down, a projection its columns. -/
inductive StageReport where
  | consumed (rows : Nat)
  | rejected (rows : Nat)
  | columns (positions : List Nat)
deriving DecidableEq

namespace Stage

def State (σ : Type) : Stage → Type
  | range _ _ => RangeState σ
  | filter _ => FilterState σ
  | project _ => σ

variable {σ : Type}

def start (s : σ) : (stage : Stage) → stage.State σ
  | range _ _ => RangeState.start s
  | filter _ => FilterState.start s
  | project _ => s

def cursor (c : Cursor σ) : (stage : Stage) → Cursor (stage.State σ)
  | range first last => c.range first last
  | filter predicate => c.filter predicate
  | project columns => c.project columns

/-- The state of what the stage pulls from. -/
def inner : (stage : Stage) → stage.State σ → σ
  | range _ _, s => RangeState.inner s
  | filter _, s => FilterState.inner s
  | project _, s => s

def report : (stage : Stage) → stage.State σ → StageReport
  | range _ _, s => .consumed (RangeState.position s)
  | filter _, s => .rejected (FilterState.rejected s)
  | project columns, _ => .columns columns

end Stage

namespace Stack

def State (σ : Type) : List Stage → Type
  | [] => σ
  | stage :: outer => State (stage.State σ) outer

def start {σ : Type} (s : σ) : (stages : List Stage) → State σ stages
  | [] => s
  | stage :: outer => start (stage.start s) outer

def cursor {σ : Type} (c : Cursor σ) : (stages : List Stage) → Cursor (State σ stages)
  | [] => c
  | stage :: outer => cursor (stage.cursor c) outer

/-- The state of the base. -/
def base {σ : Type} : (stages : List Stage) → State σ stages → σ
  | [], s => s
  | stage :: outer, s => stage.inner (base outer s)

/-- The reports of the stages from the base outward. -/
def reports {σ : Type} : (stages : List Stage) → State σ stages → List StageReport
  | [], _ => []
  | stage :: outer, s => stage.report (base outer s) :: reports outer s

end Stack

end TableScan
