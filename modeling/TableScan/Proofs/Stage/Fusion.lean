import TableScan.Proofs.Bisimulation

/-!
Filters on filters. A filter of a filter looks for its rows through two searches, each of which keeps a
row and comes to an end by itself. It does what one filter by the conjunction does, but for what the two
log at their end: it answers the same, draws the same and calls the same tests, call by call, and the
rows that the two turn down are together those that the one turns down.
-/

namespace TableScan

variable {σ τ α : Type}

/-! ## Without the log -/

/-- What was done apart from logging. -/
def Trace.unlogged (trace : Trace) : Trace := { trace with events := [] }

@[simp] theorem Trace.unlogged_append (a b : Trace) :
    (a ++ b).unlogged = a.unlogged ++ b.unlogged := rfl

@[simp] theorem Trace.unlogged_ofCalls (calls : List Call) :
    (Trace.ofCalls calls).unlogged = .ofCalls calls := rfl

theorem Trace.ofCalls_append (first second : List Call) :
    Trace.ofCalls (first ++ second) = .ofCalls first ++ .ofCalls second := rfl

@[simp] theorem Trace.unlogged_ofEvent (event : Event) :
    (Trace.ofEvent event).unlogged = .empty := rfl

def Reply.unlogged (reply : Reply σ α) : Reply σ α := { reply with trace := reply.trace.unlogged }

@[simp] theorem Reply.unlogged_after (trace : Trace) (reply : Reply σ α) :
    (reply.after trace).unlogged = reply.unlogged.after trace.unlogged := rfl

/-- Replies that match but for their log. -/
theorem Reply.Matches.of_unlogged {R : σ → τ → Prop} {a : Reply σ α} {b : Reply τ α}
    (h : a.unlogged.Matches R b.unlogged) :
    a.answer = b.answer ∧ a.trace.draws = b.trace.draws ∧ a.trace.calls = b.trace.calls ∧
      R a.state b.state := by
  have htrace : a.trace.unlogged = b.trace.unlogged := h.trace
  exact ⟨h.answer, (Trace.mk.inj htrace).1, (Trace.mk.inj htrace).2.1, h.state⟩

namespace Cursor

/-- The cursor, with its log thrown away. -/
def unlogged (c : Cursor σ) : Cursor σ where
  hasNext s := (c.hasNext s).unlogged
  nextRow s := (c.nextRow s).unlogged
  left := c.left
  left_hasNext := c.left_hasNext
  left_nextRow := c.left_nextRow

theorem ask_unlogged (c : Cursor σ) (s : σ) (call : Request) :
    c.unlogged.ask s call = (c.ask s call).unlogged := by
  cases call with
  | hasNext => rfl
  | nextRow => rfl
  | next =>
    cases h : (c.hasNext s).answer with
    | true =>
      rw [ask_next_of_promised h, ask_next_of_promised (c := c.unlogged) h]
      rfl
    | false =>
      rw [ask_next_of_refused h, ask_next_of_refused (c := c.unlogged) h]
      rfl

theorem run_unlogged (c : Cursor σ) (calls : List Request) (s : σ) :
    c.unlogged.run calls s = (c.run calls s).unlogged := by
  induction calls generalizing s with
  | nil => rfl
  | cons call calls ih =>
    simp only [run, runWith] at ih ⊢
    rw [ask_unlogged, ih]
    rfl

end Cursor

/-! ## The search through two filters -/

/-- A conjunction whose left side holds goes on to the right one. -/
theorem Predicate.calls_and_of_holds {p q : Predicate} {row : Row} (hp : p.holds row = true) :
    (p.and q).calls row = p.calls row ++ q.calls row := by
  rw [calls_and, if_pos hp]

theorem Predicate.calls_and_of_not_holds {p q : Predicate} {row : Row} (hp : p.holds row = false) :
    (p.and q).calls row = p.calls row := by
  rw [calls_and, hp]
  exact List.append_nil _

namespace FilterState

/-- A search goes on from where looking below leads. -/
theorem seek_of_later {d : Cursor τ} {q : Predicate} {s : FilterState τ} {u : τ} {trace : Trace}
    (h : d.hasNext s.inner = (d.hasNext u).after trace) :
    seek d q s = (seek d q { s with inner := u }).after trace := by
  have hanswer : (d.hasNext s.inner).answer = (d.hasNext u).answer := by rw [h]; rfl
  have hstate : (d.hasNext s.inner).state = (d.hasNext u).state := by rw [h]; rfl
  have htrace : (d.hasNext s.inner).trace = trace ++ (d.hasNext u).trace := by rw [h]; rfl
  cases hlook : (d.hasNext u).answer with
  | false =>
    rw [seek_of_end (hanswer.trans hlook), seek_of_end (s := { s with inner := u }) hlook, hstate,
      htrace]
    simp [Reply.after, finish, Trace.append_assoc]
  | true =>
    cases hrow : (d.nextRow (d.hasNext u).state).answer with
    | error e =>
      rw [seek_of_error (hanswer.trans hlook) (by rw [hstate]; exact hrow),
        seek_of_error (s := { s with inner := u }) hlook hrow, hstate, htrace]
      simp [Reply.after, finish, Trace.append_assoc]
    | ok row =>
      cases hq : q.holds row with
      | true =>
        rw [seek_of_accepted (hanswer.trans hlook) (by rw [hstate]; exact hrow) hq,
          seek_of_accepted (s := { s with inner := u }) hlook hrow hq, hstate, htrace]
        simp [Reply.after, accept, Trace.append_assoc]
      | false =>
        rw [seek_of_rejected (hanswer.trans hlook) (by rw [hstate]; exact hrow) hq,
          seek_of_rejected (s := { s with inner := u }) hlook hrow hq, hstate, htrace]
        simp [Reply.after, reject, Trace.append_assoc]

section Lower
variable {c : Cursor σ} {p q : Predicate} {s : FilterState (FilterState σ)} {u : σ} {row : Row}
  {trace : Trace}

/-- Has accepted a row and handed it out at once. -/
def pass (s : FilterState σ) (inner : σ) : FilterState σ :=
  { s with inner, examined := s.examined + 1, pending := none }

theorem nextRow_of_accept {s : FilterState σ}
    (h : (c.filter p).hasNext s = ⟨true, s.accept u row, trace⟩) :
    (c.filter p).nextRow ((c.filter p).hasNext s).state = ⟨.ok row, s.pass u, .empty⟩ := by
  rw [h]
  rfl

/-- Where the lower filter has come to its end, so has the upper one. -/
theorem seek_of_lower_end (h : (c.filter p).hasNext s.inner = (s.inner.finish u).after trace) :
    seek (c.filter p) q s =
      (s.finish (s.inner.finish u).state).after (trace ++ (s.inner.finish u).trace) := by
  rw [seek_of_end (by rw [h]; rfl), h]
  rfl

theorem seek_of_both_accept
    (h : (c.filter p).hasNext s.inner = ⟨true, s.inner.accept u row, trace⟩)
    (hq : q.holds row = true) :
    seek (c.filter p) q s =
      ⟨true, s.accept (s.inner.pass u) row, trace ++ .ofCalls (q.calls row)⟩ := by
  have hrow := nextRow_of_accept h
  rw [seek_of_accepted (congrArg Reply.answer h) (congrArg Reply.answer hrow) hq, hrow, h]
  simp

theorem seek_of_upper_reject
    (h : (c.filter p).hasNext s.inner = ⟨true, s.inner.accept u row, trace⟩)
    (hq : q.holds row = false) :
    seek (c.filter p) q s =
      (seek (c.filter p) q (s.reject (s.inner.pass u))).after (trace ++ .ofCalls (q.calls row)) := by
  have hrow := nextRow_of_accept h
  rw [seek_of_rejected (congrArg Reply.answer h) (congrArg Reply.answer hrow) hq, hrow, h]
  simp

end Lower

/-- Two filters, one on the other, between calls, and the filter that does the work of both: the lower
one has nothing to keep, since the upper one takes each row as it is found. -/
structure Fused (s : FilterState (FilterState σ)) (t : FilterState σ) : Prop where
  inner : s.inner.inner = t.inner
  lower : s.inner.pending = none
  pending : s.pending = t.pending
  ended : s.inner.exhausted = t.exhausted
  exhausted : s.exhausted = t.exhausted
  rejected : t.rejected = s.rejected + s.inner.rejected

namespace Fused

variable {c : Cursor σ} {p q : Predicate} {s : FilterState (FilterState σ)} {t : FilterState σ}

theorem start (s : σ) : Fused (.start (.start s)) (.start s) := ⟨rfl, rfl, rfl, rfl, rfl, rfl⟩

theorem accept (h : Fused s t) (u : σ) (row : Row) :
    Fused (s.accept (s.inner.pass u) row) (t.accept u row) :=
  ⟨rfl, rfl, rfl, h.ended, h.exhausted, h.rejected⟩

theorem reject_lower (h : Fused s t) (u : σ) :
    Fused { s with inner := s.inner.reject u } (t.reject u) :=
  ⟨rfl, h.lower, h.pending, h.ended, h.exhausted, congrArg (· + 1) h.rejected⟩

theorem reject_upper (h : Fused s t) (u : σ) : Fused (s.reject (s.inner.pass u)) (t.reject u) where
  inner := rfl
  lower := rfl
  pending := h.pending
  ended := h.ended
  exhausted := h.exhausted
  rejected := by
    have hrejected := h.rejected
    simp only [FilterState.reject, FilterState.pass]
    omega

theorem finish (h : Fused s t) (u : σ) :
    Fused (s.finish (s.inner.finish u).state).state (t.finish u).state :=
  ⟨rfl, h.lower, h.pending, rfl, rfl, h.rejected⟩

theorem hasNext_lower (h : Fused s t) (hx : t.exhausted = false) :
    (c.filter p).hasNext s.inner = FilterState.seek c p s.inner :=
  hasNext_of_running h.lower (h.ended.trans hx)

/-- What the lower filter accepts is what the one filter finds below. -/
theorem hasNext_lower_of_accepted (h : Fused s t) (hx : t.exhausted = false)
    (hl : (c.hasNext t.inner).answer = true) {row : Row}
    (hn : (c.nextRow (c.hasNext t.inner).state).answer = .ok row) (hp : p.holds row = true) :
    (c.filter p).hasNext s.inner =
      let drawn := c.nextRow (c.hasNext t.inner).state
      ⟨true, s.inner.accept drawn.state row,
        (c.hasNext t.inner).trace ++ drawn.trace ++ .ofCalls (p.calls row)⟩ := by
  rw [h.hasNext_lower hx, ← h.inner]
  exact seek_of_accepted (by rw [h.inner]; exact hl) (by rw [h.inner]; exact hn) hp

/-- Both searches end at the end of what is below. -/
theorem ends (h : Fused s t) {u : σ} {trace : Trace}
    (hlower : (c.filter p).hasNext s.inner = (s.inner.finish u).after trace) :
    (FilterState.seek (c.filter p) q s).unlogged.Matches Fused
      ((t.finish u).after trace).unlogged := by
  rw [seek_of_lower_end hlower]
  exact ⟨rfl, by simp [Reply.after, Reply.unlogged, FilterState.finish], h.finish u⟩

/-- The induction follows the search of the one filter. A row that the lower filter turns down is passed
over within one look of the upper one. -/
theorem seek (c : Cursor σ) (p q : Predicate) (t : FilterState σ) (hx : t.exhausted = false) :
    ∀ s, Fused s t → (FilterState.seek (c.filter p) q s).unlogged.Matches Fused
      (FilterState.seek c (p.and q) t).unlogged := by
  fun_induction FilterState.seek c (p.and q) t with
  | case1 t look hlook drawn e hrow =>
    intro s h
    have hlower := h.hasNext_lower (c := c) (p := p) hx
    rw [seek_of_error (by rw [h.inner]; exact hlook) (by rw [h.inner]; exact hrow), h.inner] at hlower
    exact h.ends hlower
  | case2 t look hlook drawn row hrow verdict trace haccepted =>
    intro s h
    have hboth : (p.holds row && q.holds row) = true := (p.holds_and q row).symm.trans haccepted
    obtain ⟨hp, hq⟩ := Bool.and_eq_true_iff.mp hboth
    have hcalls : verdict.calls = p.calls row ++ q.calls row := p.calls_and_of_holds hp
    rw [seek_of_both_accept (h.hasNext_lower_of_accepted hx hlook hrow hp) hq]
    refine ⟨rfl, ?_, h.accept drawn.state row⟩
    simp [Reply.unlogged, trace, drawn, look, hcalls, Trace.ofCalls_append, Trace.append_assoc]
  | case3 t look hlook drawn row hrow verdict trace hrejected ih =>
    intro s h
    have hboth : (p.holds row && q.holds row) = false :=
      (p.holds_and q row).symm.trans (Bool.eq_false_iff.mpr hrejected)
    cases hp : p.holds row with
    | true =>
      have hq : q.holds row = false := by rwa [hp, Bool.true_and] at hboth
      have hcalls : verdict.calls = p.calls row ++ q.calls row := p.calls_and_of_holds hp
      rw [seek_of_upper_reject (h.hasNext_lower_of_accepted hx hlook hrow hp) hq,
        Reply.unlogged_after, Reply.unlogged_after]
      refine (ih hx _ (h.reject_upper drawn.state)).after ?_
      simp [trace, drawn, look, hcalls, Trace.ofCalls_append, Trace.append_assoc]
    | false =>
      have hcalls : verdict.calls = p.calls row := p.calls_and_of_not_holds hp
      have hlower := h.hasNext_lower (c := c) (p := p) hx
      have hrest : (c.filter p).hasNext (s.inner.reject drawn.state) =
          FilterState.seek c p (s.inner.reject drawn.state) :=
        (h.reject_lower drawn.state).hasNext_lower hx
      rw [seek_of_rejected (by rw [h.inner]; exact hlook) (by rw [h.inner]; exact hrow) hp, h.inner]
        at hlower
      rw [seek_of_later (hlower.trans (congrArg (Reply.after _) hrest.symm)), Reply.unlogged_after,
        Reply.unlogged_after]
      refine (ih hx _ (h.reject_lower drawn.state)).after ?_
      simp [trace, drawn, look, hcalls]
  | case4 t look hlook =>
    intro s h
    have hlower := h.hasNext_lower (c := c) (p := p) hx
    rw [seek_of_end (by rw [h.inner]; simpa using hlook), h.inner] at hlower
    exact h.ends hlower

theorem hasNext (c : Cursor σ) (p q : Predicate) (h : Fused s t) :
    (FilterState.hasNext (c.filter p) q s).unlogged.Matches Fused
      (FilterState.hasNext c (p.and q) t).unlogged := by
  simp only [FilterState.hasNext, h.pending, h.exhausted]
  split
  · exact ⟨rfl, rfl, h⟩
  · split
    · exact ⟨rfl, rfl, h⟩
    · rename_i hx
      exact seek c p q t (by simpa using hx) s h

theorem handOut (h : Fused s t) : s.handOut.unlogged.Matches Fused t.handOut.unlogged := by
  simp only [FilterState.handOut, h.pending]
  split
  · exact ⟨rfl, rfl, h.inner, h.lower, rfl, h.ended, h.exhausted, h.rejected⟩
  · exact ⟨rfl, rfl, h⟩

theorem bisimulation (c : Cursor σ) (p q : Predicate) :
    ((c.filter p).filter q).unlogged.Bisimulation (c.filter (p.and q)).unlogged Fused where
  hasNext h := h.hasNext c p q
  nextRow h := (h.hasNext c p q).state.handOut.after (h.hasNext c p q).trace

end Fused

end FilterState

/-- A filter of a filter and one filter by the conjunction, over any cursor: after any calls they have
given the same answers, drawn the same number of times and called the same tests in the same order; they
do so in the next call, whichever it is; and the one has turned down as many rows as the two together. -/
theorem Cursor.filter_filter (c : Cursor σ) (p q : Predicate) (s : σ) (calls : List Request) :
    let two := ((c.filter p).filter q).run calls (.start (.start s))
    let one := (c.filter (p.and q)).run calls (.start s)
    two.answer = one.answer ∧ two.trace.draws = one.trace.draws ∧
      two.trace.calls = one.trace.calls ∧
      one.state.rejected = two.state.rejected + two.state.inner.rejected ∧
      ∀ call : Request,
        let upper := ((c.filter p).filter q).ask two.state call
        let single := (c.filter (p.and q)).ask one.state call
        upper.answer = single.answer ∧ upper.trace.draws = single.trace.draws ∧
          upper.trace.calls = single.trace.calls ∧
          single.state.rejected = upper.state.rejected + upper.state.inner.rejected := by
  intro two one
  have hfused := FilterState.Fused.bisimulation c p q
  have hrun := hfused.run (FilterState.Fused.start s) calls
  rw [run_unlogged, run_unlogged] at hrun
  obtain ⟨hanswer, hdraws, hcalls, hstate⟩ := hrun.of_unlogged
  refine ⟨hanswer, hdraws, hcalls, hstate.rejected, fun call => ?_⟩
  have hask := hfused.ask hstate call
  rw [ask_unlogged, ask_unlogged] at hask
  obtain ⟨hanswer, hdraws, hcalls, hstate⟩ := hask.of_unlogged
  exact ⟨hanswer, hdraws, hcalls, hstate.rejected⟩

end TableScan
