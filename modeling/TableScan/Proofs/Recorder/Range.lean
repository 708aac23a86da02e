import TableScan.Proofs.Foresight
import TableScan.Proofs.Recorder

/-!
The account of a range. Its position is the number of rows that it pulled, the rows that it handed out
are those of them from its lower bound on, and its end is logged once.
-/

namespace TableScan

variable {σ τ : Type}

namespace Recorded

/-- What is pulled and discarded is taken down below. -/
theorem discard (c : Cursor σ) (count : Nat) (s : Recorded σ) :
    let discarded := c.recorded.discard count s
    discarded.state.rows.length = s.rows.length + discarded.answer ∧ discarded.answer ≤ count ∧
      discarded.state.events = s.events ++ discarded.trace.events := by
  induction count generalizing s with
  | zero => exact ⟨rfl, Nat.le_refl _, (List.append_nil _).symm⟩
  | succ count ih =>
    simp only [Cursor.discard]
    split
    · split
      · rename_i row hrow
        obtain ⟨hrows, hcount, hevents⟩ := ih (c.recorded.nextRow (c.recorded.hasNext s).state).state
        rw [rows_drawn, hrow, List.length_append] at hrows
        rw [events_drawn, List.append_assoc] at hevents
        refine ⟨hrows.trans ?_, Nat.succ_le_succ hcount, hevents⟩
        exact (Nat.add_assoc _ _ _).trans (congrArg _ (Nat.add_comm _ _))
      · rename_i error hrow
        refine ⟨?_, Nat.zero_le _, events_drawn c s⟩
        rw [rows_drawn, hrow]
        exact congrArg List.length (List.append_nil _)
    · exact ⟨by rw [rows_hasNext]; rfl, Nat.zero_le _, events_hasNext c s⟩

end Recorded

namespace RangeState

variable {first : Nat} {last : Option Nat}

/-- A promised row lies in the window. -/
theorem first_le_of_promised {c : Cursor τ} {s : RangeState τ}
    (h : (hasNext c first last s).answer = true) :
    first ≤ (hasNext c first last s).state.position ∧
      (hasNext c first last s).state.exhausted = false := by
  rcases hasNext_outcome c first last s with ⟨hrefused, -⟩ | ⟨u, position, -, hstate, hfirst, -⟩
  · exact absurd (hrefused.symm.trans h) (by decide)
  · rw [hstate]
    exact ⟨hfirst, rfl⟩

section Calls
variable (c : Cursor σ) (first : Nat) (last : Option Nat)

/-- Looking ahead counts every row that it pulls, and pulls none of the window. -/
theorem hasNext_consumes {s : RangeState (Recorded σ)} (hs : s.position = s.inner.rows.length) :
    let look := hasNext c.recorded first last s
    look.state.position = look.state.inner.rows.length ∧
      look.state.inner.rows.drop first = s.inner.rows.drop first := by
  obtain ⟨hrows, hcount, -⟩ := Recorded.discard c (first - s.position) s.inner
  have hskipped : (c.recorded.discard (first - s.position) s.inner).state.rows.drop first =
      s.inner.rows.drop first := by
    by_cases hp : first ≤ s.position
    · rw [Nat.sub_eq_zero_of_le hp]
      rfl
    · rw [List.drop_of_length_le (by omega), List.drop_of_length_le (by omega)]
  rw [← hs] at hrows
  simp only [hasNext]
  split
  · exact ⟨hs, rfl⟩
  · split
    · exact ⟨hrows.symm, hskipped⟩
    · split
      · exact ⟨hrows.symm.trans (by rw [Recorded.rows_hasNext]),
          (congrArg _ (Recorded.rows_hasNext c _)).trans hskipped⟩
      · exact ⟨hrows.symm.trans (by rw [Reply.after, finish, Recorded.rows_hasNext]),
          (congrArg _ (Recorded.rows_hasNext c _)).trans hskipped⟩

/-- A row that is handed out is pulled for it. -/
theorem nextRow_consumes {s : RangeState (Recorded σ)} (hs : s.position = s.inner.rows.length) :
    let drawn := nextRow c.recorded first last s
    drawn.state.position = drawn.state.inner.rows.length ∧
      drawn.state.inner.rows.drop first =
        s.inner.rows.drop first ++ drawn.answer.toOption.toList := by
  obtain ⟨hposition, hdrop⟩ := hasNext_consumes c first last hs
  simp only [nextRow]
  split
  · rename_i hlook
    obtain ⟨hfirst, -⟩ := first_le_of_promised hlook
    rw [hposition] at hfirst
    rw [Recorded.rows_nextRow, List.length_append, List.drop_append_of_le_length hfirst, hdrop,
      hposition]
    exact ⟨congrArg _ (rowsIn_eq _), rfl⟩
  · exact ⟨hposition, hdrop.trans (List.append_nil _).symm⟩

theorem hasNext_closes (s : RangeState (Recorded σ)) :
    (hasNext c.recorded first last s).Closes (c.recorded.range first last) inner exhausted
      (.rangeExhausted ·.position) s := by
  refine ⟨fun hx => ?_, fun hx => ?_, fun hx => ?_⟩
  · have hlook : hasNext c.recorded first last s = ⟨false, s, .empty⟩ := hasNext_of_exhausted hx
    rw [hlook]
    exact ⟨congrArg Reply.answer hlook, rfl, rfl⟩
  · change _ = !(hasNext c.recorded first last s).answer
    rcases hasNext_outcome c.recorded first last s with
      ⟨hrefused, hended⟩ | ⟨u, position, hpromised, hstate, -⟩
    · rw [hrefused, hended]
      rfl
    · rw [hpromised, hstate]
      rfl
  · obtain ⟨-, -, hskipped⟩ := Recorded.discard c (first - s.position) s.inner
    simp only [hasNext, hx, Bool.false_eq_true, if_false]
    split
    · rw [Reply.after, finish, if_pos rfl, Trace.events_append, ← List.append_assoc, ← hskipped]
      rfl
    · split
      · rw [if_neg Bool.false_ne_true, Recorded.events_hasNext, Trace.events_append,
          ← List.append_assoc, ← hskipped, List.append_nil]
      · rw [Reply.after, finish, if_pos rfl, Recorded.events_hasNext, Trace.events_append,
          Trace.events_append, ← List.append_assoc, ← List.append_assoc, ← hskipped]
        rfl

/-- A request closes a range as a look does. -/
theorem nextRow_closes (s : RangeState (Recorded σ)) :
    (nextRow c.recorded first last s).Closes (c.recorded.range first last) inner exhausted
      (.rangeExhausted ·.position) s := by
  obtain ⟨hidle, hends, hlogged⟩ := hasNext_closes c first last s
  simp only [nextRow]
  split
  · rename_i hlook
    obtain ⟨-, hrunning⟩ := first_le_of_promised hlook
    refine ⟨fun hx => ?_, hends, fun hx => ?_⟩
    · exact absurd (hlook.symm.trans (hidle hx).1) (by decide)
    · have hdrawn := hlogged hx
      rw [hrunning, if_neg Bool.false_ne_true, List.append_nil] at hdrawn
      rw [hrunning, if_neg Bool.false_ne_true, List.append_nil, Recorded.events_nextRow,
        Trace.events_append, ← List.append_assoc, hdrawn]
  · exact ⟨hidle, hends, hlogged⟩

end Calls

/-- A range over a record, with the record of its own calls. -/
structure Accounts (c : Cursor σ) (first : Nat) (last : Option Nat)
    (s : Recorded (RangeState (Recorded σ))) : Prop where
  consumed : s.state.position = s.state.inner.rows.length
  rows : s.rows = s.state.inner.rows.drop first
  handed : s.rows.length = s.state.position - first
  ends : s.EndsOnce (c.recorded.range first last) inner exhausted (.rangeExhausted ·.position)

namespace Accounts

variable {c : Cursor σ} {s : Recorded (RangeState (Recorded σ))}

theorem of_rows (consumed : s.state.position = s.state.inner.rows.length)
    (rows : s.rows = s.state.inner.rows.drop first)
    (ends : s.EndsOnce (c.recorded.range first last) inner exhausted (.rangeExhausted ·.position)) :
    Accounts c first last s :=
  ⟨consumed, rows, by rw [rows, List.length_drop, consumed], ends⟩

theorem start (c : Cursor σ) (first : Nat) (last : Option Nat) (s : σ) :
    Accounts c first last (.start (.start (.start s))) :=
  of_rows rfl List.drop_nil.symm (.start rfl)

/-- Any call on a range is accounted for. -/
theorem keeps (c : Cursor σ) (first : Nat) (last : Option Nat) :
    (c.recorded.range first last).recorded.Keeps (Accounts c first last) where
  hasNext := by
    intro s h
    obtain ⟨hconsumed, hrows⟩ := hasNext_consumes c first last h.consumed
    have hhanded := Recorded.rows_hasNext (c.recorded.range first last) s
    refine of_rows hconsumed ?_ (h.ends.note ((hasNext_closes c first last s.state).map _))
    rw [hhanded, h.rows]
    exact hrows.symm
  nextRow := by
    intro s h
    obtain ⟨hconsumed, hrows⟩ := nextRow_consumes c first last h.consumed
    have hhanded := Recorded.rows_nextRow (c.recorded.range first last) s
    refine of_rows hconsumed ?_ (h.ends.note ((nextRow_closes c first last s.state).map _))
    rw [hhanded, h.rows]
    exact hrows.symm

end Accounts

end RangeState

end TableScan
