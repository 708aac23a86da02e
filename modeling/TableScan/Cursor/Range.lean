import TableScan.Cursor

/-!
The range stage passes on the rows whose positions in the incoming sequence lie between two bounds,
both included. Earlier rows are pulled and discarded. Once the position is past the upper bound, or
the incoming rows run out, the stage is exhausted for good and pulls no more.
-/

namespace TableScan

variable {σ : Type}

namespace Cursor

/-- Pulls rows and discards them, up to a number. The answer is how many there were; a row that
fails to arrive ends the pulling. -/
def discard (c : Cursor σ) : Nat → σ → Reply σ Nat
  | 0, s => ⟨0, s, .empty⟩
  | n + 1, s =>
    let look := c.hasNext s
    if look.answer then
      let drawn := c.nextRow look.state
      match drawn.answer with
      | .ok _ => ((c.discard n drawn.state).map (· + 1)).after (look.trace ++ drawn.trace)
      | .error _ => ⟨0, drawn.state, look.trace ++ drawn.trace⟩
    else ⟨0, look.state, look.trace⟩

theorem left_discard (c : Cursor σ) (n : Nat) (s : σ) :
    c.left (c.discard n s).state ≤ c.left s := by
  induction n generalizing s with
  | zero => exact Nat.le_refl _
  | succ n ih =>
    have hl := c.left_hasNext s
    have hn := c.left_nextRow_le (c.hasNext s).state
    simp only [discard]
    split
    · split
      · exact Nat.le_trans (ih _) (Nat.le_trans hn hl)
      · exact Nat.le_trans hn hl
    · exact hl

end Cursor

/-- The position is the number of rows that were pulled. Calls move it by one row at a time, so a machine
word has room for it in every run over fewer rows than the word can count. -/
structure RangeState (σ : Type) where
  inner : σ
  position : Nat
  exhausted : Bool
deriving DecidableEq

namespace RangeState

def start (s : σ) : RangeState σ := ⟨s, 0, false⟩

def finish (s : σ) (position : Nat) : Reply (RangeState σ) Bool :=
  ⟨false, ⟨s, position, true⟩, .ofEvent (.rangeExhausted position)⟩

/-- Skips to the lower bound first. The upper bound is tested before the incoming rows are. -/
def hasNext (c : Cursor σ) (first : Nat) (last : Option Nat) (s : RangeState σ) :
    Reply (RangeState σ) Bool :=
  if s.exhausted then ⟨false, s, .empty⟩
  else
    let skipped := c.discard (first - s.position) s.inner
    let position := s.position + skipped.answer
    if position < first || last.any (· < position) then
      (finish skipped.state position).after skipped.trace
    else
      let look := c.hasNext skipped.state
      if look.answer then ⟨true, ⟨look.state, position, false⟩, skipped.trace ++ look.trace⟩
      else (finish look.state position).after (skipped.trace ++ look.trace)

theorem hasNext_of_exhausted {c : Cursor σ} {first : Nat} {last : Option Nat} {s : RangeState σ}
    (hx : s.exhausted = true) : hasNext c first last s = ⟨false, s, .empty⟩ := by
  simp [hasNext, hx]

section HasNext
variable {c : Cursor σ} {first : Nat} {last : Option Nat} {s : σ} {position : Nat}

/-- Skipping one row is the first step of skipping to the lower bound. -/
theorem hasNext_of_skipped (hp : position < first) (hl : (c.hasNext s).answer = true) {row : Row}
    (hn : (c.nextRow (c.hasNext s).state).answer = .ok row) :
    hasNext c first last ⟨s, position, false⟩ =
      (hasNext c first last ⟨(c.nextRow (c.hasNext s).state).state, position + 1, false⟩).after
        ((c.hasNext s).trace ++ (c.nextRow (c.hasNext s).state).trace) := by
  obtain ⟨n, hn', hn''⟩ : ∃ n, first - position = n + 1 ∧ first - (position + 1) = n :=
    ⟨first - position - 1, by omega, by omega⟩
  simp only [hasNext, hn', hn'', Cursor.discard, hl, hn, if_true, Bool.false_eq_true, if_false,
    Reply.after, Reply.map, Nat.add_assoc, Nat.add_comm 1]
  split
  · rw [Trace.append_assoc]
  · split <;> simp [Trace.append_assoc]

theorem hasNext_of_skip_error (hp : position < first) (hl : (c.hasNext s).answer = true)
    {e : ScanError} (hn : (c.nextRow (c.hasNext s).state).answer = .error e) :
    hasNext c first last ⟨s, position, false⟩ =
      (finish (c.nextRow (c.hasNext s).state).state position).after
        ((c.hasNext s).trace ++ (c.nextRow (c.hasNext s).state).trace) := by
  obtain ⟨n, hn'⟩ : ∃ n, first - position = n + 1 := ⟨first - position - 1, by omega⟩
  simp [hasNext, hn', Cursor.discard, hl, hn, hp]

theorem hasNext_of_skip_end (hp : position < first) (hl : (c.hasNext s).answer = false) :
    hasNext c first last ⟨s, position, false⟩ =
      (finish (c.hasNext s).state position).after (c.hasNext s).trace := by
  obtain ⟨n, hn'⟩ : ∃ n, first - position = n + 1 := ⟨first - position - 1, by omega⟩
  simp [hasNext, hn', Cursor.discard, hl, hp]

theorem hasNext_of_passed (hp : first ≤ position) (ht : last.any (· < position) = true) :
    hasNext c first last ⟨s, position, false⟩ = finish s position := by
  simp [hasNext, Nat.sub_eq_zero_of_le hp, Cursor.discard, ht, Reply.after]

theorem hasNext_of_window (hp : first ≤ position) (ht : last.any (· < position) = false) :
    hasNext c first last ⟨s, position, false⟩ =
      if (c.hasNext s).answer then ⟨true, ⟨(c.hasNext s).state, position, false⟩, (c.hasNext s).trace⟩
      else (finish (c.hasNext s).state position).after (c.hasNext s).trace := by
  simp [hasNext, Nat.sub_eq_zero_of_le hp, Cursor.discard, ht, Nat.not_lt.mpr hp]

end HasNext

/-- A row that fails to arrive takes up no position. -/
def nextRow (c : Cursor σ) (first : Nat) (last : Option Nat) (s : RangeState σ) :
    Reply (RangeState σ) (Except ScanError Row) :=
  let look := hasNext c first last s
  if look.answer then
    let drawn := c.nextRow look.state.inner
    let position := look.state.position + rowsIn drawn.answer
    ⟨drawn.answer, { look.state with inner := drawn.state, position := position },
      look.trace ++ drawn.trace⟩
  else ⟨.error .noSuchElement, look.state, look.trace⟩

theorem left_hasNext (c : Cursor σ) (first : Nat) (last : Option Nat) (s : RangeState σ) :
    c.left (hasNext c first last s).state.inner ≤ c.left s.inner := by
  have hd := c.left_discard (first - s.position) s.inner
  have hl := c.left_hasNext (c.discard (first - s.position) s.inner).state
  simp only [hasNext]
  split
  · exact Nat.le_refl _
  · split
    · exact hd
    · split <;> exact Nat.le_trans hl hd

theorem left_nextRow (c : Cursor σ) (first : Nat) (last : Option Nat) (s : RangeState σ) :
    c.left (nextRow c first last s).state.inner + rowsIn (nextRow c first last s).answer ≤
      c.left s.inner := by
  have hl := left_hasNext c first last s
  have hn := c.left_nextRow (hasNext c first last s).state.inner
  simp only [nextRow]
  split
  · exact Nat.le_trans hn hl
  · exact hl

end RangeState

/-- The rows of a cursor at positions from `first` to `last`, or without end. -/
def Cursor.range (c : Cursor σ) (first : Nat) (last : Option Nat) : Cursor (RangeState σ) where
  hasNext := RangeState.hasNext c first last
  nextRow := RangeState.nextRow c first last
  left s := c.left s.inner
  left_hasNext := RangeState.left_hasNext c first last
  left_nextRow := RangeState.left_nextRow c first last

end TableScan
