import TableScan.Proofs.Bisimulation

/-!
Trusted sources below a stack. A source that is trusted to keep to its end is drawn from again by a
request after that end, where another source is not. Only a request that no look has promised can bring
this about. Ranges and filters make no such requests, so above the first of them both kinds of sources do
the same, and in particular in a scan.
-/

namespace TableScan

/-- Whether a stage looks for a row before it requests one. -/
def Stage.looksFirst : Stage → Bool
  | range _ _ => true
  | filter _ => true
  | project _ => false

/-- A stack in which some stage looks first cannot tell cursors apart that agree on looks and on requests
for promised rows. Only projections lie below the first such stage. -/
theorem Cursor.Concord.stack {σ τ : Type} {Out : σ → Prop} {c : Cursor σ} {d : Cursor τ}
    {R : σ → τ → Prop} (h : c.Concord Out d R) {s : σ} {t : τ} (hst : R s t) {stages : List Stage}
    (hlooks : stages.any Stage.looksFirst = true) :
    (Stack.cursor c stages).AlikeWithin (fun s => Out (Stack.base stages s)) (Stack.start s stages)
      (Stack.cursor d stages) (Stack.start t stages) := by
  induction stages generalizing σ τ with
  | nil => contradiction
  | cons stage outer ih =>
    cases stage with
    | range first last =>
      have halike : (c.range first last).AlikeWithin (fun s => Out s.inner) (.start s)
          (d.range first last) (.start t) := ⟨_, h.range first last, hst, rfl, rfl⟩
      exact halike.stack outer
    | filter p =>
      have halike : (c.filter p).AlikeWithin (fun s => Out s.inner) (.start s) (d.filter p)
          (.start t) := ⟨_, h.filter p, hst, rfl, rfl, rfl, rfl⟩
      exact halike.stack outer
    | project columns => exact ih (h.project columns) hst hlooks

namespace Lookahead

/-- Lookaheads over the same answers, of which the second has not let go of an end. The first may not
know that there was one. -/
structure InStep (s t : Lookahead) : Prop where
  feed : s.feed = t.feed
  ahead : s.ahead = t.ahead
  ended : t.ended = true → t.ahead = some none

namespace InStep

variable {s t : Lookahead}

theorem start (feed : Feed) : InStep (.start feed) (.start feed) where
  feed := rfl
  ahead := rfl
  ended h := Bool.noConfusion h

/-- As long as no end was let go of, both draw in the same way. -/
theorem hasNext (h : InStep s t) : (trusting.hasNext s).Matches InStep (cursor.hasNext t) := by
  obtain ⟨feed, flag, ahead⟩ := s
  obtain ⟨_, ended, _⟩ := t
  obtain ⟨rfl, rfl, hended⟩ := h
  cases ahead with
  | some held => exact ⟨rfl, rfl, rfl, rfl, hended⟩
  | none =>
    have hrunning : ended = false := Bool.eq_false_iff.mpr fun h => nomatch hended h
    subst hrunning
    rcases feed with _ | ⟨_ | row, rest⟩
    · exact ⟨rfl, rfl, rfl, rfl, fun _ => rfl⟩
    · exact ⟨rfl, rfl, rfl, rfl, fun _ => rfl⟩
    · exact ⟨rfl, rfl, rfl, rfl, nofun⟩

/-- A promised row is held by both, so the source was not seen to end. -/
theorem promised (h : InStep s t) {row : Row} (hrow : s.ahead = some (some row)) :
    (trusting.nextRow s).Matches InStep (cursor.nextRow t) := by
  obtain ⟨feed, flag, ahead⟩ := s
  obtain ⟨_, ended, _⟩ := t
  obtain ⟨rfl, rfl, hended⟩ := h
  obtain rfl : ahead = some (some row) := hrow
  refine ⟨rfl, rfl, rfl, rfl, fun h => ?_⟩
  cases hended h

end InStep

/-- What a look promises it holds. -/
theorem ahead_of_promised {draw : Lookahead → Reply Lookahead (Option Row)} {s : Lookahead}
    (h : (lookBy draw s).answer = true) : ∃ row, (lookBy draw s).state.ahead = some (some row) := by
  unfold lookBy at h ⊢
  split at h
  · rename_i held hheld
    obtain ⟨row, rfl⟩ := Option.isSome_iff_exists.mp h
    exact ⟨row, hheld⟩
  · obtain ⟨row, hrow⟩ := Option.isSome_iff_exists.mp h
    exact ⟨row, congrArg some hrow⟩

theorem concord_trusting : trusting.Concord (fun _ => False) cursor InStep where
  keeps := ⟨id, id⟩
  hasNext h := .inr h.hasNext
  promised h hlook := by
    obtain ⟨row, hrow⟩ := ahead_of_promised hlook
    exact .inr (h.hasNext.state.promised hrow)

end Lookahead

/-- Above a stage that looks first it makes no difference whether a source is trusted. -/
theorem Stack.trusting_alike (feed : Feed) {stages : List Stage}
    (hlooks : stages.any Stage.looksFirst = true) :
    (Stack.cursor Lookahead.trusting stages).Alike (Stack.start (Lookahead.start feed) stages)
      (Stack.cursor Lookahead.cursor stages) (Stack.start (Lookahead.start feed) stages) :=
  .of_within (Lookahead.concord_trusting.stack (.start feed) hlooks)

/-- A scan over a trusted source, such as the rows of a table, does what the stream of the plan does. -/
theorem ScanPlan.run_trusting (plan : ScanPlan) (source : Feed) (calls : List Request) :
    let trusted := (Stack.cursor Lookahead.trusting plan.stages).run calls
      (Stack.start (Lookahead.start source) plan.stages)
    let past := RowStream.run calls (plan.stream source)
    trusted.answer = past.answer ∧ trusted.trace = past.trace := by
  intro trusted past
  have hlooks : plan.stages.any Stage.looksFirst = true := rfl
  have hrun := (Stack.trusting_alike source hlooks).run calls
  have hstream : past = _ := (plan.stream source).run_eq calls
  rw [hstream]
  exact ⟨hrun.answer, hrun.trace⟩

end TableScan
