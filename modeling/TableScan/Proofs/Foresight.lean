import TableScan.Cursor.Faulty
import TableScan.Proofs.Run

/-!
Looking ahead. A cursor is steady if a second look does nothing and a look before a request leaves
nothing else for the request to do. A source is steady however it is drawn from, so is every base that
looks without moving, and every stage over a steady cursor is steady again. Looks may then be put into a
run or taken out of it anywhere before a request for a row, and nothing but their own answers changes.
-/

namespace TableScan

variable {σ : Type}

namespace Cursor

structure Steady (c : Cursor σ) : Prop where
  again : ∀ s, c.hasNext (c.hasNext s).state = ⟨(c.hasNext s).answer, (c.hasNext s).state, .empty⟩
  nextRow : ∀ s, (c.nextRow (c.hasNext s).state).after (c.hasNext s).trace = c.nextRow s

/-- What a stack may stand on: a source that is not asked again after its end, a source that is trusted
to keep to its end and is asked for every row that is requested, or a cursor that looks ahead without
moving. A request to the last may fail although a look promised a row. -/
inductive Base : {σ : Type} → Cursor σ → Prop where
  | source : Base Lookahead.cursor
  | trusted : Base Lookahead.trusting
  | still {σ : Type} {c : Cursor σ}
      (h : ∀ s, (c.hasNext s).state = s ∧ (c.hasNext s).trace = .empty) : Base c

end Cursor

/-- What is drawn by a look is held, so neither another look nor a request draws again. -/
theorem Lookahead.steady {draw : Lookahead → Reply Lookahead (Option Row)} (h : Draws draw) :
    (cursorBy h).Steady where
  again s := by
    show lookBy draw (lookBy draw s).state = ⟨(lookBy draw s).answer, (lookBy draw s).state, .empty⟩
    cases hs : s.ahead <;> simp [lookBy, hs]
  nextRow s := by
    show (requestBy draw (lookBy draw s).state).after (lookBy draw s).trace = requestBy draw s
    cases hs : s.ahead with
    | some held => simp [lookBy, requestBy, hs, Reply.after]
    | none =>
      have ha := h.ahead s
      rw [hs] at ha
      simp only [lookBy, requestBy, hs, Reply.after, Reply.map, Trace.append_empty]
      rw [← ha]

theorem Cursor.Base.steady {c : Cursor σ} (hc : c.Base) : c.Steady := by
  cases hc with
  | source => exact Lookahead.steady Lookahead.draws_draw
  | trusted => exact Lookahead.steady Lookahead.draws_drawTrusting
  | still h =>
    have hs : ∀ s, c.hasNext s = ⟨(c.hasNext s).answer, s, .empty⟩ := fun s =>
      Reply.ext rfl (h s).1 (h s).2
    refine ⟨fun s => ?_, fun s => ?_⟩
    · rw [(h s).1]
      exact hs s
    · rw [(h s).1, (h s).2]
      simp [Reply.after]

/-! ## Stages -/

/-- A search ends with a kept row or exhausted, as it says. -/
theorem FilterState.seek_outcome (c : Cursor σ) (p : Predicate) (s : FilterState σ)
    (hs : s.pending = none) :
    (seek c p s).answer = (seek c p s).state.pending.isSome ∧
      ((seek c p s).answer = false → (seek c p s).state.exhausted = true) := by
  fun_induction seek c p s with
  | case1 s look hlook drawn e he => simp [Reply.after, finish, hs]
  | case2 s look hlook drawn row hrow verdict trace haccepted => simp [accept]
  | case3 s look hlook drawn row hrow verdict trace hrejected ih => exact ih hs
  | case4 s look hlook => simp [Reply.after, finish, hs]

theorem FilterState.hasNext_outcome (c : Cursor σ) (p : Predicate) (s : FilterState σ) :
    (hasNext c p s).answer = (hasNext c p s).state.pending.isSome ∧
      ((hasNext c p s).answer = false → (hasNext c p s).state.exhausted = true) := by
  unfold hasNext
  split
  · rename_i hp
    exact ⟨hp.symm, fun h => absurd h (by simp)⟩
  · rename_i hp
    have hp' : s.pending = none := by simpa using hp
    split
    · rename_i hx
      exact ⟨by simp [hp'], fun _ => hx⟩
    · exact seek_outcome c p s hp'

theorem FilterState.hasNext_again (c : Cursor σ) (p : Predicate) (s : FilterState σ) :
    hasNext c p (hasNext c p s).state =
      ⟨(hasNext c p s).answer, (hasNext c p s).state, .empty⟩ := by
  obtain ⟨hp, hx⟩ := hasNext_outcome c p s
  generalize hasNext c p s = look at hp hx ⊢
  cases h : look.answer with
  | true => simp [hasNext, ← hp, h]
  | false => simp [hasNext, ← hp, h, hx h]

theorem Cursor.filter_steady (c : Cursor σ) (p : Predicate) : (c.filter p).Steady where
  again := FilterState.hasNext_again c p
  nextRow s := by
    simp only [Cursor.filter, FilterState.nextRow, FilterState.hasNext_again]
    simp [Reply.after]

/-- A look at a range finds it exhausted, or leaves it inside the window with a row seen below. -/
theorem RangeState.hasNext_outcome (c : Cursor σ) (first : Nat) (last : Option Nat)
    (s : RangeState σ) :
    let look := hasNext c first last s
    (look.answer = false ∧ look.state.exhausted = true) ∨
      ∃ u position, look.answer = true ∧ look.state = ⟨(c.hasNext u).state, position, false⟩ ∧
        first ≤ position ∧ last.any (· < position) = false ∧ (c.hasNext u).answer = true := by
  simp only [hasNext]
  split
  · rename_i hx
    exact .inl ⟨rfl, hx⟩
  · split
    · exact .inl ⟨rfl, rfl⟩
    · rename_i hw
      simp only [Bool.or_eq_true, decide_eq_true_eq, not_or, Nat.not_lt, Bool.not_eq_true] at hw
      split
      · rename_i hlook
        exact .inr ⟨_, _, rfl, rfl, hw.1, hw.2, hlook⟩
      · exact .inl ⟨rfl, rfl⟩

theorem Cursor.Steady.range_again {c : Cursor σ} (hc : c.Steady) (first : Nat) (last : Option Nat)
    (s : RangeState σ) :
    RangeState.hasNext c first last (RangeState.hasNext c first last s).state =
      ⟨(RangeState.hasNext c first last s).answer, (RangeState.hasNext c first last s).state,
        .empty⟩ := by
  obtain ⟨ha, hx⟩ | ⟨u, position, ha, hs, hfirst, hlast, hu⟩ :=
    RangeState.hasNext_outcome c first last s
  · rw [RangeState.hasNext_of_exhausted hx, ha]
  · rw [ha, hs, RangeState.hasNext_of_window hfirst hlast, hc.again u]
    simp [hu]

theorem Cursor.Steady.range {c : Cursor σ} (hc : c.Steady) (first : Nat) (last : Option Nat) :
    (c.range first last).Steady where
  again := hc.range_again first last
  nextRow s := by
    simp only [Cursor.range, RangeState.nextRow, hc.range_again]
    split <;> simp [Reply.after]

theorem Cursor.Steady.project {c : Cursor σ} (hc : c.Steady) (columns : List Nat) :
    (c.project columns).Steady where
  again s := hc.again s
  nextRow s := by
    simp only [Cursor.project]
    rw [← hc.nextRow s]
    rfl

theorem Cursor.Steady.stage {c : Cursor σ} (hc : c.Steady) (stage : Stage) :
    (stage.cursor c).Steady := by
  cases stage with
  | range first last => exact hc.range first last
  | filter p => exact c.filter_steady p
  | project columns => exact hc.project columns

theorem Cursor.Steady.stack {c : Cursor σ} (hc : c.Steady) (stages : List Stage) :
    (Stack.cursor c stages).Steady := by
  induction stages generalizing σ with
  | nil => exact hc
  | cons stage outer ih => exact ih (hc.stage stage)

/-! ## Runs -/

namespace Cursor.Steady

variable {c : Cursor σ}

theorem next (hc : c.Steady) (s : σ) :
    (c.next (c.hasNext s).state).after (c.hasNext s).trace = c.next s := by
  simp only [Cursor.next, hc.again]
  split <;> simp [Reply.after]

/-- A request answers the same, and has done the same in the end, if it is preceded by a look. -/
theorem ask (hc : c.Steady) (s : σ) {call : Request} (hcall : call.looks = false) :
    (c.ask (c.hasNext s).state call).after (c.hasNext s).trace = c.ask s call := by
  cases call with
  | hasNext => contradiction
  | nextRow =>
    simp only [Cursor.ask]
    rw [← hc.nextRow s]
    rfl
  | next =>
    simp only [Cursor.ask]
    rw [← hc.next s]
    rfl

theorem run_looked (hc : c.Steady) (s : σ) {call : Request} (hcall : call.looks = false)
    (calls : List Request) :
    (c.run (call :: calls) (c.hasNext s).state).after (c.hasNext s).trace =
      c.run (call :: calls) s := by
  have ha := hc.ask s hcall
  simp only [Cursor.run, runWith]
  rw [← ha]
  simp [Reply.after, Trace.append_assoc]

theorem promises_ask (c : Cursor σ) (s : σ) (call : Request) :
    (c.ask s call).answer.promises = call.looks := by
  cases call <;> rfl

/-- A run that ends in a request does what it does without its looks. -/
theorem run_without_looks (hc : c.Steady) (calls : List Request) {call : Request}
    (hcall : call.looks = false) (s : σ) :
    (c.run (calls ++ [call]) s).map (List.filter (!·.promises)) =
      c.run (calls.filter (!·.looks) ++ [call]) s := by
  induction calls generalizing s with
  | nil =>
    cases call with
    | hasNext => contradiction
    | nextRow => rfl
    | next => rfl
  | cons first calls ih =>
    cases hf : first.looks with
    | false =>
      have ha : (c.ask s first).answer.promises = false := by rw [promises_ask, hf]
      rw [List.filter_cons_of_pos (by simp [hf])]
      simp only [List.cons_append, Cursor.run, runWith] at ih ⊢
      rw [← ih]
      simp [Reply.map, Reply.after, ha]
    | true =>
      -- the look goes into the next request, which may be the last of the run
      have hl : first = .hasNext := by cases first <;> first | rfl | contradiction
      subst hl
      have hr := ih (c.hasNext s).state
      rw [List.filter_cons_of_neg (by simp [hf])]
      have hstep : (c.run (.hasNext :: calls ++ [call]) s).map (List.filter (!·.promises)) =
          (c.run (calls.filter (!·.looks) ++ [call]) (c.hasNext s).state).after
            (c.hasNext s).trace := by
        rw [← hr]
        rfl
      rw [hstep]
      cases hp : calls.filter (!·.looks) with
      | nil => exact hc.run_looked s hcall []
      | cons q qs =>
        have hq : q ∈ calls.filter (!·.looks) := hp ▸ List.mem_cons_self
        exact hc.run_looked s (by simpa using (List.mem_filter.mp hq).2) (qs ++ [call])

end Cursor.Steady

/-- Looking ahead is transparent in every state of a stack, whether it stands on a source that is asked
again after its end or not, or on a cursor whose requests may fail. A second look answers as the first did
and does nothing else; a request after a look leaves the answer, the state and the trace of both
together as the request alone; and two runs that end in a request and differ only in their looks
hand out, fail, leave behind and do the same. -/
theorem Stack.foresight {base : Cursor σ} (hbase : base.Base) (stages : List Stage)
    (s : Stack.State σ stages) :
    let c := Stack.cursor base stages
    c.hasNext (c.hasNext s).state = ⟨(c.hasNext s).answer, (c.hasNext s).state, .empty⟩ ∧
      (c.nextRow (c.hasNext s).state).after (c.hasNext s).trace = c.nextRow s ∧
      ∀ (calls others : List Request) (call : Request), call.looks = false →
        calls.filter (!·.looks) = others.filter (!·.looks) →
        (c.run (calls ++ [call]) s).map (List.filter (!·.promises)) =
          (c.run (others ++ [call]) s).map (List.filter (!·.promises)) := by
  have hc := hbase.steady.stack stages
  refine ⟨hc.again s, hc.nextRow s, fun calls others call hcall hsame => ?_⟩
  rw [hc.run_without_looks calls hcall, hc.run_without_looks others hcall, hsame]

/-- The second entry below the first stack is promised and does not arrive. The source below the second
is trusted to keep to its end, and is drawn from for each request that comes after it. -/
theorem Stack.foresight_faulty :
    let stages := [.range 1 (some 3), .filter (.comparison ⟨0, .int32⟩ .neq (.int32 4)), .project [0]]
    let s := Stack.start [some ⟨"a", [.null]⟩, none, some ⟨"b", [.int32 4]⟩, some ⟨"c", []⟩] stages
    let c := Stack.cursor Faulty.cursor stages
    let t := Stack.start (Lookahead.start [some ⟨"a", [.null]⟩]) [.project [0]]
    let d := Stack.cursor Lookahead.trusting [.project [0]]
    (c.run [.hasNext, .hasNext, .nextRow, .hasNext, .next] s).map (List.filter (!·.promises)) =
        (c.run [.nextRow, .next] s).map (List.filter (!·.promises)) ∧
      (d.run [.nextRow, .hasNext, .hasNext, .nextRow, .hasNext, .nextRow] t).map
          (List.filter (!·.promises)) =
        (d.run [.nextRow, .nextRow, .nextRow] t).map (List.filter (!·.promises)) ∧
      (d.run [.nextRow, .nextRow, .nextRow] t).trace.draws = 3 := by
  intro stages s c t d
  have hfaulty : Cursor.Base Faulty.cursor := .still fun _ => ⟨rfl, rfl⟩
  refine ⟨?_, ?_, rfl⟩
  · exact (Stack.foresight hfaulty stages s).2.2 [.hasNext, .hasNext, .nextRow, .hasNext] [.nextRow]
      .next rfl rfl
  · exact (Stack.foresight .trusted [.project [0]] t).2.2
      [.nextRow, .hasNext, .hasNext, .nextRow, .hasNext] [.nextRow, .nextRow] .nextRow rfl rfl

end TableScan
