import TableScan.Proofs.Run

/-!
Simulations between cursors. A relation between the states of two cursors is kept by every call, with
equal answers and traces, for as long as the first cursor does not run out of its bounds. Every stage
passes this on from what it pulls from to itself, so it has to be shown for base cursors only. A range and
a filter request no row that a look has not promised, so below them it is enough if the two cursors agree
on looks and on requests for promised rows.
-/

namespace TableScan

variable {σ τ α β : Type}

/-! ## Replies -/

/-- Two replies of the same answer and trace that leave related states. -/
structure Reply.Matches (R : σ → τ → Prop) (a : Reply σ α) (b : Reply τ α) : Prop where
  answer : a.answer = b.answer
  trace : a.trace = b.trace
  state : R a.state b.state

namespace Reply.Matches

variable {R : σ → τ → Prop} {a : Reply σ α} {b : Reply τ α}

theorem map (h : a.Matches R b) (f : α → β) : (a.map f).Matches R (b.map f) :=
  ⟨congrArg f h.answer, h.trace, h.state⟩

theorem after (h : a.Matches R b) {t u : Trace} (htu : t = u) :
    (a.after t).Matches R (b.after u) :=
  ⟨h.answer, by rw [Reply.after, Reply.after, htu, h.trace], h.state⟩

theorem mono {S : σ → τ → Prop} (h : a.Matches R b) (hRS : ∀ s t, R s t → S s t) :
    a.Matches S b :=
  ⟨h.answer, h.trace, hRS _ _ h.state⟩

end Reply.Matches

/-- Two replies that match, unless the first leaves a state that is out of bounds. -/
def Reply.Follows (Out : σ → Prop) (R : σ → τ → Prop) (a : Reply σ α) (b : Reply τ α) : Prop :=
  Out a.state ∨ a.Matches R b

namespace Reply.Follows

variable {Out : σ → Prop} {R : σ → τ → Prop} {a : Reply σ α} {b : Reply τ α}

theorem map (h : a.Follows Out R b) (f : α → β) : (a.map f).Follows Out R (b.map f) :=
  h.imp id (·.map f)

theorem after (h : a.Follows Out R b) {t u : Trace} (htu : t = u) :
    (a.after t).Follows Out R (b.after u) :=
  h.imp id (·.after htu)

end Reply.Follows

namespace Cursor

/-! ## What calls keep -/

/-- A property that both kinds of calls keep. -/
structure Keeps (c : Cursor σ) (I : σ → Prop) : Prop where
  hasNext : ∀ {s}, I s → I (c.hasNext s).state
  nextRow : ∀ {s}, I s → I (c.nextRow s).state

namespace Keeps

variable {c : Cursor σ} {I J : σ → Prop} {s : σ}

theorem and (h : c.Keeps I) (h' : c.Keeps J) : c.Keeps fun s => I s ∧ J s where
  hasNext hs := ⟨h.hasNext hs.1, h'.hasNext hs.2⟩
  nextRow hs := ⟨h.nextRow hs.1, h'.nextRow hs.2⟩

theorem next (h : c.Keeps I) (hlook : I (c.hasNext s).state) : I (c.next s).state := by
  unfold Cursor.next
  dsimp only
  split
  · exact h.nextRow hlook
  · exact hlook

theorem ask (h : c.Keeps I) (hs : I s) (call : Request) : I (c.ask s call).state := by
  cases call with
  | hasNext => exact h.hasNext hs
  | nextRow => exact h.nextRow hs
  | next => exact h.next (h.hasNext hs)

theorem run (h : c.Keeps I) (hs : I s) (calls : List Request) : I (c.run calls s).state := by
  induction calls generalizing s with
  | nil => exact hs
  | cons call calls ih => exact ih (h.ask hs call)

theorem discard_of_look (h : c.Keeps I) {n : Nat} (hrest : ∀ {t}, I t → I (c.discard n t).state)
    (hlook : I (c.hasNext s).state) : I (c.discard (n + 1) s).state := by
  unfold Cursor.discard
  dsimp only
  split
  · split
    · exact hrest (h.nextRow hlook)
    · exact h.nextRow hlook
  · exact hlook

theorem discard (h : c.Keeps I) (hs : I s) (n : Nat) : I (c.discard n s).state := by
  induction n generalizing s with
  | zero => exact hs
  | succ n ih => exact h.discard_of_look ih (h.hasNext hs)

theorem range_of_discard (h : c.Keeps I) {first : Nat} {last : Option Nat} {s : RangeState σ}
    (hx : s.exhausted = false) (hdiscard : I (c.discard (first - s.position) s.inner).state) :
    I (RangeState.hasNext c first last s).state.inner := by
  unfold RangeState.hasNext
  simp only [hx, Bool.false_eq_true, if_false]
  split
  · exact hdiscard
  · split
    · exact h.hasNext hdiscard
    · exact h.hasNext hdiscard

/-- A range does nothing to what is below but call it. -/
theorem range (h : c.Keeps I) (first : Nat) (last : Option Nat) :
    (c.range first last).Keeps fun s => I s.inner := by
  have hlook : ∀ {s : RangeState σ}, I s.inner →
      I (RangeState.hasNext c first last s).state.inner := by
    intro s hs
    cases hx : s.exhausted with
    | true =>
      rw [RangeState.hasNext_of_exhausted hx]
      exact hs
    | false => exact h.range_of_discard hx (h.discard hs _)
  refine ⟨hlook, ?_⟩
  intro s hs
  simp only [Cursor.range, RangeState.nextRow]
  split
  · exact h.nextRow (hlook hs)
  · exact hlook hs

theorem seek (h : c.Keeps I) (p : Predicate) (s : FilterState σ) (hs : I s.inner) :
    I (FilterState.seek c p s).state.inner := by
  fun_induction FilterState.seek c p s with
  | case1 s look hlook drawn e he => exact h.nextRow (h.hasNext hs)
  | case2 s look hlook drawn row hrow verdict trace haccepted => exact h.nextRow (h.hasNext hs)
  | case3 s look hlook drawn row hrow verdict trace hrejected ih =>
    exact ih (h.nextRow (h.hasNext hs))
  | case4 s look hlook => exact h.hasNext hs

/-- Nor does a filter do anything else to it. -/
theorem filter (h : c.Keeps I) (p : Predicate) : (c.filter p).Keeps fun s => I s.inner := by
  have hlook : ∀ {s : FilterState σ}, I s.inner → I (FilterState.hasNext c p s).state.inner := by
    intro s hs
    unfold FilterState.hasNext
    split
    · exact hs
    · split
      · exact hs
      · exact h.seek p s hs
  refine ⟨hlook, ?_⟩
  intro s hs
  simp only [Cursor.filter, FilterState.nextRow, Reply.after, FilterState.handOut_state]
  exact hlook hs

theorem project (h : c.Keeps I) (columns : List Nat) : (c.project columns).Keeps I where
  hasNext := h.hasNext
  nextRow := h.nextRow

theorem stage (h : c.Keeps I) (stage : Stage) :
    (stage.cursor c).Keeps fun s => I (stage.inner s) := by
  cases stage with
  | range first last => exact h.range first last
  | filter p => exact h.filter p
  | project columns => exact h.project columns

end Keeps

/-! ## Simulations -/

/-- A relation that every call on both sides keeps, with equal answers and traces, until the first side
is out of bounds. From there it does not come back. -/
structure Simulation (Out : σ → Prop) (c : Cursor σ) (d : Cursor τ) (R : σ → τ → Prop) : Prop where
  keeps : c.Keeps Out
  hasNext : ∀ {s t}, R s t → (c.hasNext s).Follows Out R (d.hasNext t)
  nextRow : ∀ {s t}, R s t → (c.nextRow s).Follows Out R (d.nextRow t)

/-- A relation that looks on both sides keep, and so does a request for a row that the look has promised,
with equal answers and traces, until the first side is out of bounds. -/
structure Concord (Out : σ → Prop) (c : Cursor σ) (d : Cursor τ) (R : σ → τ → Prop) : Prop where
  keeps : c.Keeps Out
  hasNext : ∀ {s t}, R s t → (c.hasNext s).Follows Out R (d.hasNext t)
  promised : ∀ {s t}, R s t → (c.hasNext s).answer = true →
    (c.nextRow (c.hasNext s).state).Follows Out R (d.nextRow (d.hasNext t).state)

/-- What is promised and requested is the same on both sides, unless the request leaves the bounds. -/
theorem Concord.drawn {Out : σ → Prop} {c : Cursor σ} {d : Cursor τ} {R : σ → τ → Prop}
    (h : c.Concord Out d R) {s : σ} {t : τ} (hst : R s t) (hfound : (c.hasNext s).answer = true) :
    Out (c.nextRow (c.hasNext s).state).state ∨
      (c.hasNext s).Matches R (d.hasNext t) ∧
        (c.nextRow (c.hasNext s).state).Matches R (d.nextRow (d.hasNext t).state) := by
  rcases h.hasNext hst with hout | hlook
  · exact .inl (h.keeps.nextRow hout)
  · exact (h.promised hst hfound).imp id (⟨hlook, ·⟩)

namespace Simulation

variable {Out : σ → Prop} {c : Cursor σ} {d : Cursor τ} {R : σ → τ → Prop} {s : σ} {t : τ}

theorem concord (h : c.Simulation Out d R) : c.Concord Out d R where
  keeps := h.keeps
  hasNext := h.hasNext
  promised := by
    intro s t hst _
    rcases h.hasNext hst with hout | hlook
    · exact .inl (h.keeps.nextRow hout)
    · exact h.nextRow hlook.state

theorem next (h : c.Simulation Out d R) (hst : R s t) : (c.next s).Follows Out R (d.next t) := by
  rcases h.hasNext hst with hout | hlook
  · exact .inl (h.keeps.next hout)
  · simp only [Cursor.next, hlook.answer]
    split
    · exact ((h.nextRow hlook.state).map Except.toOption).after hlook.trace
    · exact .inr ⟨rfl, hlook.trace, hlook.state⟩

theorem ask (h : c.Simulation Out d R) (hst : R s t) (call : Request) :
    (c.ask s call).Follows Out R (d.ask t call) := by
  cases call with
  | hasNext => exact (h.hasNext hst).map _
  | nextRow => exact (h.nextRow hst).map _
  | next => exact (h.next hst).map _

theorem run (h : c.Simulation Out d R) (hst : R s t) (calls : List Request) :
    (c.run calls s).Follows Out R (d.run calls t) := by
  induction calls generalizing s t with
  | nil => exact .inr ⟨rfl, rfl, hst⟩
  | cons call calls ih =>
    rcases h.ask hst call with hout | hfirst
    · exact .inl (h.keeps.run hout calls)
    · simp only [Cursor.run, runWith, hfirst.answer]
      exact ((ih hfirst.state).map _).after hfirst.trace

end Simulation

end Cursor

/-! ## Stages over related cursors -/

section Stages

variable {Out : σ → Prop} {c : Cursor σ} {d : Cursor τ} {R : σ → τ → Prop}

/-- Range stages at the same point over related states. -/
structure RangeState.Related (R : σ → τ → Prop) (s : RangeState σ) (t : RangeState τ) : Prop where
  inner : R s.inner t.inner
  position : s.position = t.position
  exhausted : s.exhausted = t.exhausted

/-- Filter stages at the same point over related states. -/
structure FilterState.Related (R : σ → τ → Prop) (s : FilterState σ) (t : FilterState τ) :
    Prop where
  inner : R s.inner t.inner
  pending : s.pending = t.pending
  examined : s.examined = t.examined
  rejected : s.rejected = t.rejected
  exhausted : s.exhausted = t.exhausted

theorem Cursor.Concord.discard (h : c.Concord Out d R) {s : σ} {t : τ} (hst : R s t) (n : Nat) :
    (c.discard n s).Follows Out R (d.discard n t) := by
  induction n generalizing s t with
  | zero => exact .inr ⟨rfl, rfl, hst⟩
  | succ n ih =>
    have hdrawn := h.drawn hst
    rcases h.hasNext hst with hout | hlook
    · exact .inl (h.keeps.discard_of_look (h.keeps.discard · n) hout)
    · simp only [Cursor.discard, hlook.answer] at hdrawn ⊢
      split
      · rename_i hfound
        rcases hdrawn hfound with hout | ⟨-, hrow⟩
        · left
          split
          · exact h.keeps.discard hout n
          · exact hout
        · simp only [hrow.answer]
          split
          · exact ((ih hrow.state).map _).after (by rw [hlook.trace, hrow.trace])
          · exact .inr ⟨rfl, by simp only [hlook.trace, hrow.trace], hrow.state⟩
      · exact .inr ⟨rfl, hlook.trace, hlook.state⟩

namespace RangeState.Related

variable {s : RangeState σ} {t : RangeState τ}

theorem hasNext (h : c.Concord Out d R) (first : Nat) (last : Option Nat) (hst : s.Related R t) :
    (RangeState.hasNext c first last s).Follows (fun s => Out s.inner) (RangeState.Related R)
      (RangeState.hasNext d first last t) := by
  cases hx : t.exhausted with
  | true =>
    rw [hasNext_of_exhausted hx, hasNext_of_exhausted (hst.exhausted.trans hx)]
    exact .inr ⟨rfl, rfl, hst⟩
  | false =>
    have hx' := hst.exhausted.trans hx
    rcases h.discard hst.inner (first - s.position) with hout | hdiscard
    · exact .inl (h.keeps.range_of_discard hx' hout)
    · have hlook := h.hasNext hdiscard.state
      rw [hst.position] at hdiscard hlook
      simp only [RangeState.hasNext, hst.position, hx, hx', hdiscard.answer, Bool.false_eq_true,
        if_false]
      split
      · exact .inr ⟨rfl, by simp only [Reply.after, finish, hdiscard.trace], hdiscard.state, rfl,
          rfl⟩
      · rcases hlook with hout | hlook
        · left
          split
          · exact hout
          · exact hout
        · simp only [hlook.answer]
          split
          · exact .inr ⟨rfl, by simp only [hdiscard.trace, hlook.trace], hlook.state, rfl, rfl⟩
          · exact .inr ⟨rfl, by simp only [Reply.after, finish, hdiscard.trace, hlook.trace],
              hlook.state, rfl, rfl⟩

/-- A row that a range promises was promised below it. -/
theorem promised (h : c.Concord Out d R) (first : Nat) (last : Option Nat) (hst : s.Related R t)
    (hfound : (RangeState.hasNext c first last s).answer = true) :
    (c.nextRow (RangeState.hasNext c first last s).state.inner).Follows Out R
      (d.nextRow (RangeState.hasNext d first last t).state.inner) := by
  cases hx : t.exhausted with
  | true =>
    rw [hasNext_of_exhausted (hst.exhausted.trans hx)] at hfound
    cases hfound
  | false =>
    have hx' := hst.exhausted.trans hx
    rcases h.discard hst.inner (first - s.position) with hout | hdiscard
    · exact .inl (h.keeps.nextRow (h.keeps.range_of_discard hx' hout))
    · have hdrawn := h.drawn hdiscard.state
      rw [hst.position] at hdiscard hdrawn
      simp only [RangeState.hasNext, hst.position, hx, hx', hdiscard.answer, Bool.false_eq_true,
        if_false] at hfound ⊢
      split at hfound
      · cases hfound
      · rename_i hwindow
        rw [if_neg hwindow, if_neg hwindow]
        split at hfound
        · rename_i hbelow
          rw [if_pos hbelow]
          rcases hdrawn hbelow with hout | ⟨hlook, hrow⟩
          · exact .inl hout
          · rw [if_pos (hlook.answer.symm.trans hbelow)]
            exact .inr hrow
        · cases hfound

end RangeState.Related

/-- A range requests no row that it was not promised. -/
theorem Cursor.Concord.range (h : c.Concord Out d R) (first : Nat) (last : Option Nat) :
    (c.range first last).Simulation (fun s => Out s.inner) (d.range first last)
      (RangeState.Related R) where
  keeps := h.keeps.range first last
  hasNext hst := hst.hasNext h first last
  nextRow := by
    intro s t hst
    have hrow := hst.promised h first last
    rcases hst.hasNext h first last with hout | hlook
    · left
      simp only [Cursor.range, RangeState.nextRow]
      split
      · exact h.keeps.nextRow hout
      · exact hout
    · simp only [Cursor.range, RangeState.nextRow, hlook.answer] at hrow ⊢
      split
      · rename_i hfound
        rcases hrow hfound with hout | hrow
        · exact .inl hout
        · exact .inr ⟨hrow.answer, by simp only [hlook.trace, hrow.trace], hrow.state,
            by simp only [hlook.state.position, hrow.answer], hlook.state.exhausted⟩
      · exact .inr ⟨rfl, hlook.trace, hlook.state⟩

namespace FilterState.Related

variable {p : Predicate} {s : FilterState σ} {t : FilterState τ}

theorem accept (hst : s.Related R t) {a : σ} {b : τ} (hab : R a b) (row : Row) :
    (s.accept a row).Related R (t.accept b row) :=
  ⟨hab, rfl, by simp only [FilterState.accept, hst.examined], hst.rejected, hst.exhausted⟩

theorem reject (hst : s.Related R t) {a : σ} {b : τ} (hab : R a b) :
    (s.reject a).Related R (t.reject b) :=
  ⟨hab, hst.pending, by simp only [FilterState.reject, hst.examined],
    by simp only [FilterState.reject, hst.rejected], hst.exhausted⟩

theorem finish (hst : s.Related R t) {a : σ} {b : τ} (hab : R a b) :
    (s.finish a).Matches (FilterState.Related R) (t.finish b) :=
  ⟨rfl, by simp only [FilterState.finish, hst.examined, hst.rejected],
    hab, hst.pending, hst.examined, hst.rejected, rfl⟩

/-- The search takes the same turns on both sides; the induction follows its turns on the left. -/
theorem seek (h : c.Concord Out d R) (s : FilterState σ) :
    ∀ t : FilterState τ, s.Related R t →
      (FilterState.seek c p s).Follows (fun s => Out s.inner) (FilterState.Related R)
        (FilterState.seek d p t) := by
  fun_induction FilterState.seek c p s with
  | case1 s look hlook drawn e he =>
    intro t hst
    rcases h.drawn hst.inner hlook with hout | ⟨hl, hn⟩
    · exact .inl hout
    · rw [FilterState.seek_of_error (s := t) (hl.answer ▸ hlook) (hn.answer ▸ he)]
      exact .inr ((hst.finish hn.state).after (by rw [← hl.trace, ← hn.trace]))
  | case2 s look hlook drawn row hrow verdict trace haccepted =>
    intro t hst
    rcases h.drawn hst.inner hlook with hout | ⟨hl, hn⟩
    · exact .inl hout
    · rw [FilterState.seek_of_accepted (s := t) (hl.answer ▸ hlook) (hn.answer ▸ hrow) haccepted]
      exact .inr ⟨rfl, by simp only [← hl.trace, ← hn.trace]; rfl, hst.accept hn.state row⟩
  | case3 s look hlook drawn row hrow verdict trace hrejected ih =>
    intro t hst
    rcases h.drawn hst.inner hlook with hout | ⟨hl, hn⟩
    · exact .inl (h.keeps.seek p _ hout)
    · have hp : p.holds row = false := Bool.eq_false_iff.mpr hrejected
      rw [FilterState.seek_of_rejected (s := t) (hl.answer ▸ hlook) (hn.answer ▸ hrow) hp]
      exact (ih _ (hst.reject hn.state)).after (by rw [← hl.trace, ← hn.trace]; rfl)
  | case4 s look hlook =>
    intro t hst
    rcases h.hasNext hst.inner with hout | hl
    · exact .inl hout
    · rw [FilterState.seek_of_end (s := t) (by rw [← hl.answer]; simpa using hlook)]
      exact .inr ((hst.finish hl.state).after hl.trace)

theorem hasNext (h : c.Concord Out d R) (hst : s.Related R t) :
    (FilterState.hasNext c p s).Follows (fun s => Out s.inner) (FilterState.Related R)
      (FilterState.hasNext d p t) := by
  simp only [FilterState.hasNext, hst.pending, hst.exhausted]
  split
  · exact .inr ⟨rfl, rfl, hst⟩
  · split
    · exact .inr ⟨rfl, rfl, hst⟩
    · exact seek h s t hst

theorem handOut (hst : s.Related R t) :
    s.handOut.Matches (FilterState.Related R) t.handOut := by
  simp only [FilterState.handOut, hst.pending]
  split
  · exact ⟨rfl, rfl, hst.inner, rfl, hst.examined, hst.rejected, hst.exhausted⟩
  · exact ⟨rfl, rfl, hst⟩

end FilterState.Related

/-- Nor does a filter. -/
theorem Cursor.Concord.filter (h : c.Concord Out d R) (p : Predicate) :
    (c.filter p).Simulation (fun s => Out s.inner) (d.filter p) (FilterState.Related R) where
  keeps := h.keeps.filter p
  hasNext hst := hst.hasNext h
  nextRow := by
    intro s t hst
    rcases hst.hasNext (p := p) h with hout | hlook
    · left
      simp only [Cursor.filter, FilterState.nextRow, Reply.after, FilterState.handOut_state]
      exact hout
    · exact .inr (hlook.state.handOut.after hlook.trace)

/-- A projection requests what it is asked for, promised or not. -/
theorem Cursor.Concord.project (h : c.Concord Out d R) (columns : List Nat) :
    (c.project columns).Concord Out (d.project columns) R where
  keeps := h.keeps.project columns
  hasNext hst := h.hasNext hst
  promised hst hlook := (h.promised hst hlook).map _

theorem Cursor.Simulation.project (h : c.Simulation Out d R) (columns : List Nat) :
    (c.project columns).Simulation Out (d.project columns) R where
  keeps := h.keeps.project columns
  hasNext hst := h.hasNext hst
  nextRow hst := (h.nextRow hst).map _

end Stages

/-! ## Stacks over related cursors -/

namespace Cursor

/-- Two states that no run tells apart before the first leaves its bounds. -/
def AlikeWithin (Out : σ → Prop) (c : Cursor σ) (s : σ) (d : Cursor τ) (t : τ) : Prop :=
  ∃ R, c.Simulation Out d R ∧ R s t

namespace AlikeWithin

variable {Out : σ → Prop} {c : Cursor σ} {d : Cursor τ} {s : σ} {t : τ}

/-- A run that stays within the bounds is answered the same and does the same on the other side. -/
theorem run (h : c.AlikeWithin Out s d t) (calls : List Request)
    (hwithin : ¬Out (c.run calls s).state) :
    (d.run calls t).answer = (c.run calls s).answer ∧
      (d.run calls t).trace = (c.run calls s).trace := by
  obtain ⟨R, hR, hst⟩ := h
  have hrun := (hR.run hst calls).resolve_left hwithin
  exact ⟨hrun.answer.symm, hrun.trace.symm⟩

theorem stage (h : c.AlikeWithin Out s d t) (stage : Stage) :
    (stage.cursor c).AlikeWithin (fun s => Out (stage.inner s)) (stage.start s) (stage.cursor d)
      (stage.start t) := by
  obtain ⟨R, hR, hst⟩ := h
  cases stage with
  | range first last => exact ⟨_, hR.concord.range first last, hst, rfl, rfl⟩
  | filter p => exact ⟨_, hR.concord.filter p, hst, rfl, rfl, rfl, rfl⟩
  | project columns => exact ⟨_, hR.project columns, hst⟩

theorem stack (h : c.AlikeWithin Out s d t) (stages : List Stage) :
    (Stack.cursor c stages).AlikeWithin (fun s => Out (Stack.base stages s)) (Stack.start s stages)
      (Stack.cursor d stages) (Stack.start t stages) := by
  induction stages generalizing σ τ with
  | nil => exact h
  | cons stage outer ih => exact ih (h.stage stage)

end AlikeWithin

end Cursor

end TableScan
