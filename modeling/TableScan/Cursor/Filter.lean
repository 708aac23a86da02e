import TableScan.Cursor

/-!
The filter stage passes on the rows that satisfy a predicate. To find out whether there is one it
pulls rows until one is accepted, and keeps that row until it is asked for. Each row is evaluated
once.
-/

namespace TableScan

variable {σ : Type}

/-- The kept row, and how many rows were evaluated and how many of these turned down. Calls move the
counts by one row at a time, so machine words have room for them in every run over fewer rows than a word
can count. -/
structure FilterState (σ : Type) where
  inner : σ
  pending : Option Row
  examined : Nat
  rejected : Nat
  exhausted : Bool
deriving DecidableEq

namespace FilterState

def start (s : σ) : FilterState σ := ⟨s, none, 0, 0, false⟩

/-- Keeps a row that satisfies the predicate. -/
def accept (s : FilterState σ) (inner : σ) (row : Row) : FilterState σ :=
  { s with inner, examined := s.examined + 1, pending := some row }

/-- Counts a row that does not. -/
def reject (s : FilterState σ) (inner : σ) : FilterState σ :=
  { s with inner, examined := s.examined + 1, rejected := s.rejected + 1 }

def finish (s : FilterState σ) (inner : σ) : Reply (FilterState σ) Bool :=
  ⟨false, { s with inner, exhausted := true },
    .ofEvent (.filterExhausted s.examined s.rejected)⟩

/-- Pulls rows until one is accepted. A row that fails to arrive is taken for the end. -/
def seek (c : Cursor σ) (p : Predicate) (s : FilterState σ) : Reply (FilterState σ) Bool :=
  let look := c.hasNext s.inner
  if look.answer then
    let drawn := c.nextRow look.state
    match _ : drawn.answer with
    | .error _ => (s.finish drawn.state).after (look.trace ++ drawn.trace)
    | .ok row =>
      let verdict := p.evaluate row
      let trace := look.trace ++ drawn.trace ++ .ofCalls verdict.calls
      if verdict.holds then ⟨true, s.accept drawn.state row, trace⟩
      else (seek c p (s.reject drawn.state)).after trace
  else (s.finish look.state).after look.trace
termination_by c.left s.inner
decreasing_by
  rename_i hrow _
  exact Nat.lt_of_lt_of_le (c.left_lt_of_ok hrow) (c.left_hasNext _)

section Seek
variable {c : Cursor σ} {p : Predicate} {s : FilterState σ}

theorem seek_of_end (hl : (c.hasNext s.inner).answer = false) :
    seek c p s = (s.finish (c.hasNext s.inner).state).after (c.hasNext s.inner).trace := by
  rw [seek]
  simp [hl]

theorem seek_of_error (hl : (c.hasNext s.inner).answer = true) {e : ScanError}
    (hn : (c.nextRow (c.hasNext s.inner).state).answer = .error e) :
    seek c p s = (s.finish (c.nextRow (c.hasNext s.inner).state).state).after
      ((c.hasNext s.inner).trace ++ (c.nextRow (c.hasNext s.inner).state).trace) := by
  rw [seek]
  simp only [hl, if_true]
  split
  · rfl
  · simp_all

theorem seek_of_accepted (hl : (c.hasNext s.inner).answer = true) {row : Row}
    (hn : (c.nextRow (c.hasNext s.inner).state).answer = .ok row) (hp : p.holds row = true) :
    seek c p s =
      let drawn := c.nextRow (c.hasNext s.inner).state
      ⟨true, s.accept drawn.state row,
        (c.hasNext s.inner).trace ++ drawn.trace ++ .ofCalls (p.calls row)⟩ := by
  rw [Predicate.holds] at hp
  rw [seek]
  simp only [hl, if_true]
  split
  · simp_all
  · rename_i found hf
    obtain rfl : found = row := Except.ok.inj (hf.symm.trans hn)
    rw [if_pos hp]
    rfl

/-- A rejected row is counted before the search goes on. -/
theorem seek_of_rejected (hl : (c.hasNext s.inner).answer = true) {row : Row}
    (hn : (c.nextRow (c.hasNext s.inner).state).answer = .ok row) (hp : p.holds row = false) :
    seek c p s =
      let drawn := c.nextRow (c.hasNext s.inner).state
      (seek c p (s.reject drawn.state)).after
        ((c.hasNext s.inner).trace ++ drawn.trace ++ .ofCalls (p.calls row)) := by
  rw [Predicate.holds] at hp
  rw [seek]
  simp only [hl, if_true]
  split
  · simp_all
  · rename_i found hf
    obtain rfl : found = row := Except.ok.inj (hf.symm.trans hn)
    rw [if_neg (by simp [hp])]
    rfl

end Seek

def hasNext (c : Cursor σ) (p : Predicate) (s : FilterState σ) : Reply (FilterState σ) Bool :=
  if s.pending.isSome then ⟨true, s, .empty⟩
  else if s.exhausted then ⟨false, s, .empty⟩
  else seek c p s

theorem hasNext_of_pending {c : Cursor σ} {p : Predicate} {s : FilterState σ} {row : Row}
    (hpending : s.pending = some row) : hasNext c p s = ⟨true, s, .empty⟩ := by
  simp [hasNext, hpending]

theorem hasNext_of_exhausted {c : Cursor σ} {p : Predicate} {s : FilterState σ}
    (hpending : s.pending = none) (hx : s.exhausted = true) :
    hasNext c p s = ⟨false, s, .empty⟩ := by
  simp [hasNext, hpending, hx]

theorem hasNext_of_running {c : Cursor σ} {p : Predicate} {s : FilterState σ}
    (hpending : s.pending = none) (hx : s.exhausted = false) : hasNext c p s = seek c p s := by
  simp [hasNext, hpending, hx]

/-- Hands out the row that was kept. -/
def handOut (s : FilterState σ) : Reply (FilterState σ) (Except ScanError Row) :=
  match s.pending with
  | some row => ⟨.ok row, { s with pending := none }, .empty⟩
  | none => ⟨.error .noSuchElement, s, .empty⟩

theorem handOut_state (s : FilterState σ) : s.handOut.state = { s with pending := none } := by
  obtain ⟨inner, pending, examined, rejected, exhausted⟩ := s
  cases pending <;> rfl

theorem handOut_trace (s : FilterState σ) : s.handOut.trace = .empty := by
  unfold handOut
  split <;> rfl

def nextRow (c : Cursor σ) (p : Predicate) (s : FilterState σ) :
    Reply (FilterState σ) (Except ScanError Row) :=
  let look := hasNext c p s
  look.state.handOut.after look.trace

/-- The rows to come from the incoming cursor, with the one that is kept. -/
def left (c : Cursor σ) (s : FilterState σ) : Nat :=
  c.left s.inner + if s.pending.isSome then 1 else 0

theorem left_seek (c : Cursor σ) (p : Predicate) (s : FilterState σ) (h : s.pending = none) :
    left c (seek c p s).state ≤ c.left s.inner := by
  fun_induction seek c p s with
  | case1 s look hlook drawn e he =>
    simp only [Reply.after, finish, left, h]
    exact Nat.le_trans (c.left_nextRow_le _) (c.left_hasNext _)
  | case2 s look hlook drawn row hrow verdict trace haccepted =>
    have hlt := c.left_lt_of_ok hrow
    have hle := c.left_hasNext s.inner
    exact Nat.le_trans hlt hle
  | case3 s look hlook drawn row hrow verdict trace hrejected ih =>
    have hlt := c.left_lt_of_ok hrow
    have hle := c.left_hasNext s.inner
    exact Nat.le_trans (ih h) (Nat.le_trans (Nat.le_of_lt hlt) hle)
  | case4 s look hlook =>
    simp only [Reply.after, finish, left, h]
    exact c.left_hasNext _

theorem left_hasNext (c : Cursor σ) (p : Predicate) (s : FilterState σ) :
    left c (hasNext c p s).state ≤ left c s := by
  unfold hasNext
  split
  · exact Nat.le_refl _
  · split
    · exact Nat.le_refl _
    · rename_i hp _
      have hs := left_seek c p s (by simpa using hp)
      exact Nat.le_trans hs (Nat.le_add_right _ _)

theorem left_handOut (c : Cursor σ) (s : FilterState σ) :
    left c s.handOut.state + rowsIn s.handOut.answer ≤ left c s := by
  unfold handOut
  split <;> simp_all [left, rowsIn]

theorem left_nextRow (c : Cursor σ) (p : Predicate) (s : FilterState σ) :
    left c (nextRow c p s).state + rowsIn (nextRow c p s).answer ≤ left c s :=
  Nat.le_trans (left_handOut c _) (left_hasNext c p s)

end FilterState

/-- The rows of a cursor that satisfy a predicate. -/
def Cursor.filter (c : Cursor σ) (p : Predicate) : Cursor (FilterState σ) where
  hasNext := FilterState.hasNext c p
  nextRow := FilterState.nextRow c p
  left := FilterState.left c
  left_hasNext := FilterState.left_hasNext c p
  left_nextRow := FilterState.left_nextRow c p

end TableScan
