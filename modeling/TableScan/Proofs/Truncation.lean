import TableScan.Proofs.Simulation

/-!
Bases without end. A cursor has finitely many rows to come, and the search of a filter relies on this to
stop. A base that may go on for ever is met through its truncations, which are cursors: each grants a
number of requests for rows, and no row after them. As long as some of them are left, a stack over a
truncation does the same over every longer one. So what is shown of stacks over all cursors holds of every
run over a base without end that stops by itself. A source that never ends is met through its first answers
in the same way.
-/

namespace TableScan

variable {σ : Type}

/-- How rows are pulled from a state, with no bound on the rows to come. -/
structure Puller (σ : Type) where
  hasNext : σ → Reply σ Bool
  nextRow : σ → Reply σ (Except ScanError Row)

/-- A state with the number of requests for rows that are still granted. -/
structure Granted (σ : Type) where
  state : σ
  requests : Nat

namespace Puller

def ask (p : Puller σ) (s : σ) : Request → Reply σ Response
  | .hasNext => (p.hasNext s).map .promise
  | .nextRow => (p.nextRow s).map .row
  | .next =>
    let look := p.hasNext s
    if look.answer then ((p.nextRow look.state).map (Response.item ·.toOption)).after look.trace
    else ⟨.item none, look.state, look.trace⟩

/-- The cursor that fails to hand out a row once no request is granted any more. -/
def truncated (p : Puller σ) : Cursor (Granted σ) where
  hasNext s :=
    let look := p.hasNext s.state
    ⟨look.answer, { s with state := look.state }, look.trace⟩
  nextRow s :=
    match s.requests with
    | 0 => ⟨.error .noSuchElement, s, .empty⟩
    | requests + 1 =>
      let drawn := p.nextRow s.state
      ⟨drawn.answer, ⟨drawn.state, requests⟩, drawn.trace⟩
  left s := s.requests
  left_hasNext s := Nat.le_refl _
  left_nextRow s := by
    obtain ⟨state, requests⟩ := s
    cases requests with
    | zero => exact Nat.le_refl 0
    | succ requests =>
      have hrow : ∀ answer : Except ScanError Row, rowsIn answer ≤ 1 := by
        intro answer
        cases answer with
        | error e => exact Nat.zero_le 1
        | ok row => exact Nat.le_refl 1
      exact Nat.add_le_add_left (hrow _) requests

/-- A truncation and a longer one do the same until the shorter one is used up. -/
theorem simulation_truncated (p : Puller σ) (more : Nat) :
    p.truncated.Simulation (fun s => s.requests = 0) p.truncated
      fun s t => t = ⟨s.state, more + s.requests⟩ where
  keeps := by
    refine ⟨id, ?_⟩
    rintro ⟨state, requests⟩ rfl
    rfl
  hasNext := by
    rintro s _ rfl
    exact .inr ⟨rfl, rfl, rfl⟩
  nextRow := by
    rintro ⟨state, requests⟩ _ rfl
    cases requests with
    | zero => exact .inl rfl
    | succ requests => exact .inr ⟨rfl, rfl, rfl⟩

/-- A call of any kind requests one row at most, so where one is granted it does what it does without a
bound. -/
theorem ask_truncated (p : Puller σ) {s : Granted σ} {requests : Nat}
    (h : s.requests = requests + 1) (call : Request) :
    (p.truncated.ask s call).Matches (fun t free => t.state = free ∧ requests ≤ t.requests)
      (p.ask s.state call) := by
  obtain ⟨state, granted⟩ := s
  obtain rfl : granted = requests + 1 := h
  cases call with
  | hasNext => exact ⟨rfl, rfl, rfl, Nat.le_succ requests⟩
  | nextRow => exact ⟨rfl, rfl, rfl, Nat.le_refl requests⟩
  | next =>
    have hlook : (p.truncated.hasNext ⟨state, requests + 1⟩).answer = (p.hasNext state).answer := rfl
    cases hfound : (p.hasNext state).answer with
    | true =>
      rw [Cursor.ask_next_of_promised (hlook.trans hfound), ask, if_pos hfound]
      exact ⟨rfl, rfl, rfl, Nat.le_refl requests⟩
    | false =>
      rw [Cursor.ask_next_of_refused (hlook.trans hfound), ask, if_neg (Bool.eq_false_iff.mp hfound)]
      exact ⟨rfl, rfl, rfl, Nat.le_succ requests⟩

/-- A run over a truncation that grants a request for each call is the run without a bound. -/
theorem run_truncated (p : Puller σ) (calls : List Request) {s : Granted σ}
    (h : calls.length ≤ s.requests) :
    (p.truncated.run calls s).Matches (fun t free => t.state = free)
      (runWith p.ask calls s.state) := by
  induction calls generalizing s with
  | nil => exact ⟨rfl, rfl, rfl⟩
  | cons call calls ih =>
    obtain ⟨requests, hrequests⟩ := Nat.exists_eq_succ_of_ne_zero (Nat.ne_zero_of_lt h)
    have hfirst := p.ask_truncated hrequests call
    obtain ⟨hstate, hleft⟩ := hfirst.state
    have hlength : calls.length ≤ requests := Nat.le_of_succ_le_succ (hrequests ▸ h)
    have hrest := ih (Nat.le_trans hlength hleft)
    rw [hstate] at hrest
    simp only [Cursor.run, runWith, hfirst.answer]
    exact (hrest.map _).after hfirst.trace

end Puller

/-- A run of a stack over a truncation that is not used up does the same over a longer one. -/
theorem Stack.run_truncated (p : Puller σ) (stages : List Stage) (s : σ) (requests more : Nat)
    (calls : List Request) :
    let c := Stack.cursor p.truncated stages
    let short := c.run calls (Stack.start ⟨s, requests⟩ stages)
    let long := c.run calls (Stack.start ⟨s, more + requests⟩ stages)
    (Stack.base stages short.state).requests ≠ 0 →
      long.answer = short.answer ∧ long.trace = short.trace := by
  intro c short long hleft
  have halike : p.truncated.AlikeWithin (fun s => s.requests = 0) ⟨s, requests⟩ p.truncated
      ⟨s, more + requests⟩ := ⟨_, p.simulation_truncated more, rfl⟩
  exact (halike.stack stages).run calls hleft

/-- A base that hands out one row for ever: a range over it comes to its end by three requests. -/
example :
    let row : Row := ⟨"a", []⟩
    let p : Puller Unit := ⟨fun s => ⟨true, s, .empty⟩, fun s => ⟨.ok row, s, .ofDraws 1⟩⟩
    let stages := [.range 1 (some 2)]
    let past := (Stack.cursor p.truncated stages).run [.next, .next, .next]
      (Stack.start ⟨(), 10⟩ stages)
    handedOut past.answer = [row, row] ∧ (Stack.base stages past.state).requests = 7 := by
  decide

/-! ## Sources -/

namespace Lookahead

/-- The source has more answers in store. -/
def extend (s : Lookahead) (more : Feed) : Lookahead := { s with feed := s.feed ++ more }

/-- A way to draw that takes the first of the answers in store. -/
structure DrawsFirst (draw : Lookahead → Reply Lookahead (Option Row)) : Prop where
  nil : ∀ {s}, s.feed = [] → (draw s).state.feed = []
  extend : ∀ {s}, s.feed ≠ [] → ∀ more,
    (draw s).Matches (fun s t => t = s.extend more) (draw (s.extend more))

theorem drawsFirst_draw : DrawsFirst draw where
  nil := by
    intro s hnil
    unfold draw
    split
    · exact hnil
    · rw [hnil]
  extend := by
    intro s hfeed more
    obtain ⟨feed, ended, ahead⟩ := s
    cases ended with
    | true => exact ⟨rfl, rfl, rfl⟩
    | false =>
      rcases feed with _ | ⟨_ | row, rest⟩
      · contradiction
      · exact ⟨rfl, rfl, rfl⟩
      · exact ⟨rfl, rfl, rfl⟩

theorem drawsFirst_drawTrusting : DrawsFirst drawTrusting where
  nil := by
    intro s hnil
    exact congrArg List.tail hnil
  extend := by
    intro s hfeed more
    obtain ⟨feed, ended, ahead⟩ := s
    rcases feed with _ | ⟨answer, rest⟩
    · contradiction
    · exact ⟨rfl, rfl, rfl⟩

/-- More answers make no difference before the first ones are used up. -/
theorem simulation_extend {draw : Lookahead → Reply Lookahead (Option Row)} (h : Draws draw)
    (hfirst : DrawsFirst draw) (more : Feed) :
    (cursorBy h).Simulation (fun s => s.feed = []) (cursorBy h) fun s t => t = s.extend more where
  keeps := by
    constructor
    · intro s hnil
      show (lookBy draw s).state.feed = []
      unfold lookBy
      split
      · exact hnil
      · exact hfirst.nil hnil
    · intro s hnil
      show (requestBy draw s).state.feed = []
      unfold requestBy
      split
      · exact hnil
      · exact hfirst.nil hnil
  hasNext := by
    intro s t hst
    subst hst
    show (lookBy draw s).Follows _ _ (lookBy draw (s.extend more))
    unfold lookBy
    rw [show (s.extend more).ahead = s.ahead from rfl]
    split
    · exact .inr ⟨rfl, rfl, rfl⟩
    · by_cases hnil : s.feed = []
      · exact .inl (hfirst.nil hnil)
      · have hdraw := hfirst.extend hnil more
        simp only [← hdraw.answer, ← hdraw.trace, hdraw.state]
        exact .inr ⟨rfl, rfl, rfl⟩
  nextRow := by
    intro s t hst
    subst hst
    show (requestBy draw s).Follows _ _ (requestBy draw (s.extend more))
    unfold requestBy
    rw [show (s.extend more).ahead = s.ahead from rfl]
    split
    · exact .inr ⟨rfl, rfl, rfl⟩
    · by_cases hnil : s.feed = []
      · exact .inl (hfirst.nil hnil)
      · exact .inr ((hfirst.extend hnil more).map orExhausted)

end Lookahead

/-- A run of a stack over a source, trusted or not, that has answers left in store does the same whatever
comes after them. -/
theorem Stack.run_extend {base : Cursor Lookahead}
    (hbase : base = Lookahead.cursor ∨ base = Lookahead.trusting) (stages : List Stage)
    (feed more : Feed) (calls : List Request) :
    let c := Stack.cursor base stages
    let short := c.run calls (Stack.start (Lookahead.start feed) stages)
    let long := c.run calls (Stack.start (Lookahead.start (feed ++ more)) stages)
    (Stack.base stages short.state).feed ≠ [] →
      long.answer = short.answer ∧ long.trace = short.trace := by
  intro c short long hleft
  have halike : base.AlikeWithin (fun s => s.feed = []) (.start feed) base
      (.start (feed ++ more)) := by
    rcases hbase with rfl | rfl
    · exact ⟨_, Lookahead.simulation_extend Lookahead.draws_draw Lookahead.drawsFirst_draw more, rfl⟩
    · exact ⟨_, Lookahead.simulation_extend Lookahead.draws_drawTrusting
        Lookahead.drawsFirst_drawTrusting more, rfl⟩
  exact (halike.stack stages).run calls hleft

end TableScan
