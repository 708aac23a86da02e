import Mathlib.Data.List.Basic
import TableScan.Proofs.Foresight
import TableScan.Proofs.Recorder

/-!
The account of a filter. Every row that it pulled is examined once; those that the predicate turns down
are counted, and the others are handed out in order, but for one that may be kept. Its end is logged
once, with both counts.
-/

namespace TableScan.FilterState

variable {σ : Type} {p : Predicate} {handed : List Row} {s : FilterState (Recorded σ)}
  {inner : Recorded σ} {row : Row}

/-- What a filter over a record holds after it handed out these rows. -/
structure Tallied (p : Predicate) (handed : List Row) (s : FilterState (Recorded σ)) : Prop where
  examined : s.examined = s.inner.rows.length
  rejected : s.rejected = (s.inner.rows.filter (!p.holds ·)).length
  kept : handed ++ s.pending.toList = s.inner.rows.filter p.holds
  closed : s.exhausted = true → s.pending = none

namespace Tallied

theorem accept (h : Tallied p handed s) (hpending : s.pending = none) (hx : s.exhausted = false)
    (hrow : p.holds row = true) (hinner : inner.rows = s.inner.rows ++ [row]) :
    Tallied p handed (s.accept inner row) where
  examined := by
    rw [FilterState.accept, hinner, List.length_append, h.examined]
    rfl
  rejected := by
    simp only [FilterState.accept, hinner, List.filter_append, h.rejected, List.filter_singleton, hrow]
    rw [List.length_append]
    rfl
  kept := by
    have hkept := h.kept
    rw [hpending, Option.toList_none, List.append_nil] at hkept
    rw [FilterState.accept, hinner, List.filter_append, ← hkept, List.filter_singleton, hrow]
    rfl
  closed hended := absurd (hx.symm.trans hended) nofun

theorem reject (h : Tallied p handed s) (hrow : p.holds row = false)
    (hinner : inner.rows = s.inner.rows ++ [row]) : Tallied p handed (s.reject inner) where
  examined := by
    rw [FilterState.reject, hinner, List.length_append, h.examined]
    rfl
  rejected := by
    simp only [FilterState.reject, hinner, List.filter_append, h.rejected, List.filter_singleton, hrow]
    rw [List.length_append]
    rfl
  kept := by
    rw [FilterState.reject, hinner, List.filter_append, ← h.kept, List.filter_singleton, hrow]
    exact (List.append_nil _).symm
  closed := h.closed

theorem finish (h : Tallied p handed s) (hpending : s.pending = none)
    (hinner : inner.rows = s.inner.rows) : Tallied p handed (s.finish inner).state where
  examined := by rw [FilterState.finish, hinner, h.examined]
  rejected := by rw [FilterState.finish, hinner, h.rejected]
  kept := by rw [FilterState.finish, hinner, ← h.kept]
  closed _ := hpending

/-- The induction follows the search. -/
theorem seek (c : Cursor σ) (h : Tallied p handed s) (hpending : s.pending = none)
    (hx : s.exhausted = false) : Tallied p handed (FilterState.seek c.recorded p s).state := by
  fun_induction FilterState.seek c.recorded p s with
  | case1 s look hlook drawn error hrow =>
    refine h.finish hpending ?_
    rw [Recorded.rows_drawn, hrow]
    exact List.append_nil _
  | case2 s look hlook drawn row hrow verdict trace haccepted =>
    refine h.accept hpending hx haccepted ?_
    rw [Recorded.rows_drawn, hrow]
    rfl
  | case3 s look hlook drawn row hrow verdict trace hrejected ih =>
    refine ih (h.reject (Bool.eq_false_iff.mpr hrejected) ?_) hpending hx
    rw [Recorded.rows_drawn, hrow]
    rfl
  | case4 s look hlook => exact h.finish hpending (Recorded.rows_hasNext c _)

theorem hasNext (c : Cursor σ) (h : Tallied p handed s) :
    Tallied p handed (FilterState.hasNext c.recorded p s).state := by
  unfold FilterState.hasNext
  split
  · exact h
  · rename_i hpending
    split
    · exact h
    · rename_i hx
      exact h.seek c (by simpa using hpending) (by simpa using hx)

theorem handOut (h : Tallied p handed s) :
    Tallied p (handed ++ s.handOut.answer.toOption.toList) s.handOut.state := by
  unfold FilterState.handOut
  split
  · rename_i row hpending
    have hkept := h.kept
    rw [hpending] at hkept
    exact ⟨h.examined, h.rejected, (List.append_nil _).trans hkept, fun _ => rfl⟩
  · exact ⟨h.examined, h.rejected, (congrArg (· ++ _) (List.append_nil _)).trans h.kept, h.closed⟩

theorem nextRow (c : Cursor σ) (h : Tallied p handed s) :
    Tallied p (handed ++ (FilterState.nextRow c.recorded p s).answer.toOption.toList)
      (FilterState.nextRow c.recorded p s).state :=
  (h.hasNext c).handOut

/-- Every row that was examined was rejected, handed out or kept. -/
theorem balance (h : Tallied p handed s) :
    s.examined = s.rejected + handed.length + if s.pending.isSome then 1 else 0 := by
  have hpending : s.pending.toList.length = if s.pending.isSome then 1 else 0 := by
    cases s.pending <;> rfl
  rw [← hpending, h.examined, h.rejected, Nat.add_assoc, ← List.length_append, h.kept, Nat.add_comm,
    ← List.length_eq_length_filter_add]

end Tallied

/-! ## The end -/

section Calls
variable (c : Cursor σ) (p : Predicate)

/-- A search ends with a kept row, or is the last; what it logs itself comes after all that it made log
below. -/
theorem seek_ends (s : FilterState (Recorded σ)) (hx : s.exhausted = false) :
    let found := seek c.recorded p s
    found.state.exhausted = !found.answer ∧
      s.inner.events ++ found.trace.events = found.state.inner.events ++
        if found.state.exhausted then [.filterExhausted found.state.examined found.state.rejected]
        else [] := by
  fun_induction seek c.recorded p s with
  | case1 s look hlook drawn error hrow =>
    refine ⟨rfl, ?_⟩
    rw [Reply.after, finish, if_pos rfl, Recorded.events_drawn, Trace.events_append,
      ← List.append_assoc]
    rfl
  | case2 s look hlook drawn row hrow verdict trace haccepted =>
    refine ⟨hx, ?_⟩
    rw [accept, hx, if_neg Bool.false_ne_true, List.append_nil, Recorded.events_drawn,
      Trace.events_append]
    exact congrArg _ (List.append_nil _)
  | case3 s look hlook drawn row hrow verdict trace hrejected ih =>
    obtain ⟨hended, hlogged⟩ := ih hx
    have hbelow : drawn.state.events = s.inner.events ++ trace.events := by
      rw [Recorded.events_drawn]
      exact congrArg _ (List.append_nil _).symm
    rw [reject, hbelow, List.append_assoc] at hlogged
    exact ⟨hended, hlogged⟩
  | case4 s look hlook =>
    refine ⟨rfl, ?_⟩
    rw [Reply.after, finish, if_pos rfl, Recorded.events_hasNext, Trace.events_append,
      ← List.append_assoc]
    rfl

theorem hasNext_ends (s : FilterState (Recorded σ)) (hx : s.exhausted = false) :
    let look := hasNext c.recorded p s
    look.state.exhausted = !look.answer ∧
      s.inner.events ++ look.trace.events = look.state.inner.events ++
        if look.state.exhausted then [.filterExhausted look.state.examined look.state.rejected]
        else [] := by
  cases hpending : s.pending with
  | some row =>
    simp only [hasNext_of_pending hpending, hx]
    exact ⟨rfl, rfl⟩
  | none =>
    simp only [hasNext_of_running hpending hx]
    exact seek_ends c p s hx

theorem hasNext_closes {s : FilterState (Recorded σ)}
    (hclosed : s.exhausted = true → s.pending = none) :
    (hasNext c.recorded p s).Closes (c.recorded.filter p) FilterState.inner exhausted
      (fun t => .filterExhausted t.examined t.rejected) s where
  idle hx := by
    have hlook : hasNext c.recorded p s = ⟨false, s, .empty⟩ := hasNext_of_exhausted (hclosed hx) hx
    rw [hlook]
    exact ⟨congrArg Reply.answer hlook, rfl, rfl⟩
  ends hx := (hasNext_ends c p s hx).1
  logged hx := (hasNext_ends c p s hx).2

/-- A request closes a filter as a look does: handing out the kept row changes neither the counts nor
what is below. -/
theorem nextRow_closes {s : FilterState (Recorded σ)}
    (hclosed : s.exhausted = true → s.pending = none) :
    (nextRow c.recorded p s).Closes (c.recorded.filter p) FilterState.inner exhausted
      (fun t => .filterExhausted t.examined t.rejected) s := by
  obtain ⟨hidle, hends, hlogged⟩ := hasNext_closes c p hclosed
  have htrace : (nextRow c.recorded p s).trace = (hasNext c.recorded p s).trace := by
    rw [nextRow, Reply.after, handOut_trace, Trace.append_empty]
  have hstate : (nextRow c.recorded p s).state =
      { (hasNext c.recorded p s).state with pending := none } := handOut_state _
  refine ⟨fun hx => ?_, fun hx => ?_, fun hx => ?_⟩
  · obtain ⟨hrefused, hsame, hevents⟩ := hidle hx
    rw [hstate, htrace, hsame]
    refine ⟨hrefused, ?_, hevents⟩
    rw [← hclosed hx]
  · rw [hstate]
    exact hends hx
  · rw [hstate, htrace]
    exact hlogged hx

end Calls

/-! ## The account -/

/-- A filter over a record, with the record of its own calls. -/
structure Accounts (c : Cursor σ) (p : Predicate) (s : Recorded (FilterState (Recorded σ))) :
    Prop where
  tallied : Tallied p s.rows s.state
  balance : s.state.examined =
    s.state.rejected + s.rows.length + if s.state.pending.isSome then 1 else 0
  ends : s.EndsOnce (c.recorded.filter p) FilterState.inner exhausted
    fun t => .filterExhausted t.examined t.rejected

namespace Accounts

variable {c : Cursor σ} {p : Predicate} {s : Recorded (FilterState (Recorded σ))}

theorem of_tallied (tallied : Tallied p s.rows s.state)
    (ends : s.EndsOnce (c.recorded.filter p) FilterState.inner exhausted
      fun t => .filterExhausted t.examined t.rejected) : Accounts c p s :=
  ⟨tallied, tallied.balance, ends⟩

theorem start (c : Cursor σ) (p : Predicate) (s : σ) :
    Accounts c p (.start (.start (.start s))) :=
  of_tallied ⟨rfl, rfl, rfl, nofun⟩ (.start rfl)

/-- Any call on a filter is accounted for. -/
theorem keeps (c : Cursor σ) (p : Predicate) :
    (c.recorded.filter p).recorded.Keeps (Accounts c p) where
  hasNext := by
    intro s h
    have hhanded := Recorded.rows_hasNext (c.recorded.filter p) s
    refine of_tallied ?_ (h.ends.note ((hasNext_closes c p h.tallied.closed).map _))
    rw [hhanded]
    exact h.tallied.hasNext c
  nextRow := by
    intro s h
    have hhanded := Recorded.rows_nextRow (c.recorded.filter p) s
    refine of_tallied ?_ (h.ends.note ((nextRow_closes c p h.tallied.closed).map _))
    rw [hhanded]
    exact h.tallied.nextRow c

end Accounts

end TableScan.FilterState
