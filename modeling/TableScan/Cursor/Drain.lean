import TableScan.Cursor

/-!
Ways to use up a cursor: row by row as a plain sequence, in which the first failure reads as the
end, or request by request, in which failures are part of the answer.
-/

namespace TableScan.Cursor

variable {σ : Type}

/-- The next row, if looking ahead finds one and it arrives. -/
def next (c : Cursor σ) (s : σ) : Reply σ (Option Row) :=
  let look := c.hasNext s
  if look.answer then ((c.nextRow look.state).map Except.toOption).after look.trace
  else ⟨none, look.state, look.trace⟩

/-- At most so many rows. Nothing is pulled after the last one. -/
def take (c : Cursor σ) : Nat → σ → Reply σ (List Row)
  | 0, s => ⟨[], s, .empty⟩
  | n + 1, s =>
    let first := c.next s
    match first.answer with
    | some row => ((c.take n first.state).map (row :: ·)).after first.trace
    | none => ⟨[], first.state, first.trace⟩

/-- All rows. One more is asked for than can be left, so that the end is seen. -/
def collect (c : Cursor σ) (s : σ) : Reply σ (List Row) := c.take (c.left s + 1) s

/-- Requests rows as long as looking ahead promises one, but no more often than told. -/
def requests (c : Cursor σ) : Nat → σ → Reply σ (List (Except ScanError Row))
  | 0, s => ⟨[], s, .empty⟩
  | n + 1, s =>
    let look := c.hasNext s
    if look.answer then
      let first := c.nextRow look.state
      ((c.requests n first.state).map (first.answer :: ·)).after (look.trace ++ first.trace)
    else ⟨[], look.state, look.trace⟩

/-- Requests rows until looking ahead promises no more. -/
def drain (c : Cursor σ) (s : σ) : Reply σ (List (Except ScanError Row)) :=
  c.requests (c.left s + 1) s

end TableScan.Cursor
