import TableScan.Proofs.Scan.Draws

/-!
The calls of a scan. Tests of the caller run only on rows that were drawn, and once for each of them
that lies in the window; so at any time the draws made so far tell which calls were made.
-/

namespace TableScan

namespace Trace

variable {p : Predicate} {skipped : Nat} {rows : List Row} {trace : Trace}

/-- The calls are those that the predicate makes on the rows drawn, but for the first so many. -/
def Evaluates (p : Predicate) (skipped : Nat) (rows : List Row) (trace : Trace) : Prop :=
  trace.calls = ((rows.take trace.draws).drop skipped).flatMap p.calls

theorem evaluates_of_no_draws (hdraws : trace.draws = 0) (hcalls : trace.calls = []) :
    trace.Evaluates p skipped rows := by
  rw [Evaluates, hdraws, hcalls, List.take_zero, List.drop_nil, List.flatMap_nil]

theorem evaluates_of_no_rows (hcalls : trace.calls = []) : trace.Evaluates p skipped [] := by
  rw [Evaluates, hcalls, List.take_nil, List.drop_nil, List.flatMap_nil]

theorem take_draws_row (row : Row) (rows : List Row) (trace : Trace) :
    (row :: rows).take (ofDraws 1 ++ trace).draws = row :: rows.take trace.draws := by
  rw [draws_append, Nat.add_comm]
  rfl

/-- A row before the window is drawn without a call. -/
theorem Evaluates.skip (h : trace.Evaluates p skipped rows) (row : Row) :
    (ofDraws 1 ++ trace).Evaluates p (skipped + 1) (row :: rows) := by
  rw [Evaluates, take_draws_row, List.drop_succ_cons]
  exact h

/-- A row of the window is drawn and evaluated. -/
theorem Evaluates.row (h : trace.Evaluates p 0 rows) (row : Row) :
    (ofDraws 1 ++ ofCalls (p.calls row) ++ trace).Evaluates p 0 (row :: rows) := by
  have hdraws : (ofCalls (p.calls row) ++ trace).draws = trace.draws := Nat.zero_add _
  rw [Evaluates, append_assoc, take_draws_row, hdraws, List.drop_zero, List.flatMap_cons]
  exact congrArg (p.calls row ++ ·) h

end Trace

namespace Script

variable (p : Predicate) (first : Nat) (last : Option Nat) (examined rejected n : Nat)

theorem after_after (before between : Trace) (s : Script) :
    (s.after between).after before = s.after (before ++ between) := by
  cases s <;> simp only [after, Trace.append_assoc]

theorem filter_after (before : Trace) (s : Script) :
    (s.after before).filter p examined rejected = (s.filter p examined rejected).after before := by
  cases s with
  | stop trace => exact congrArg stop (Trace.append_assoc before trace _)
  | found trace row rest =>
    rw [after, filter, filter]
    by_cases hp : p.holds row = true
    · rw [if_pos hp, if_pos hp, after, Trace.append_assoc]
    · rw [if_neg hp, if_neg hp, after_after, Trace.append_assoc]

/-- A row below a filter costs its calls, whether it is kept or not. -/
theorem spent_filter_found (trace : Trace) (row : Row) (rest : Script) :
    ∃ examined' rejected' n', ((found trace row rest).filter p examined rejected).spent (n + 1) =
      trace ++ .ofCalls (p.calls row) ++ (rest.filter p examined' rejected').spent n' := by
  rw [filter]
  split
  · exact ⟨_, _, n, rfl⟩
  · exact ⟨_, _, n + 1, spent_after _ _ _⟩

theorem spent_project (columns : List Nat) (s : Script) :
    (s.project columns).spent n = s.spent n := by
  fun_induction spent n s with
  | case1 s => rfl
  | case2 n trace => rfl
  | case3 n trace row rest ih => exact congrArg (trace ++ ·) ih

theorem calls_spent_stop (position : Nat) :
    ((((stop (.ofDraws 1)).range first last position).filter p examined rejected).spent n).calls =
      [] := by
  cases n with
  | zero => rfl
  | succ n =>
    rw [range]
    split
    · rfl
    · rfl

/-- Over a source, a filter above a range evaluates the rows drawn from the start of the window on.
The induction is on the source: a row lies before the window, past it or in it. -/
theorem spent_filter_range (feed : Feed) (position : Nat) :
    ((((ofFeed feed).range first last position).filter p examined rejected).spent n).Evaluates p
      (first - position) feed.rows := by
  induction feed generalizing position examined rejected n with
  | nil => exact Trace.evaluates_of_no_rows (calls_spent_stop p first last examined rejected n _)
  | cons answer rest ih =>
    rcases answer with _ | row
    · exact Trace.evaluates_of_no_rows (calls_spent_stop p first last examined rejected n _)
    cases n with
    | zero => exact Trace.evaluates_of_no_draws rfl rfl
    | succ n =>
      rw [ofFeed, range]
      by_cases hp : position < first
      · have hskipped : first - position = first - (position + 1) + 1 := by omega
        rw [if_pos hp, filter_after, spent_after, hskipped]
        exact (ih examined rejected (n + 1) (position + 1)).skip row
      · rw [if_neg hp]
        by_cases ht : last.any (· < position) = true
        · rw [if_pos ht]
          exact Trace.evaluates_of_no_draws rfl rfl
        · obtain ⟨examined', rejected', n', hspent⟩ :=
            spent_filter_found p examined rejected n (.ofDraws 1) row
              ((ofFeed rest).range first last (position + 1))
          have hrest := ih examined' rejected' n' (position + 1)
          rw [Nat.sub_eq_zero_of_le (by omega)] at hrest
          rw [if_neg ht, hspent, Nat.sub_eq_zero_of_le (Nat.le_of_not_lt hp)]
          exact hrest.row row

end Script

namespace ScanPlan

variable {plan : ScanPlan} {p : Predicate}

/-- The columns that are handed out do not matter to the calls, since rows are evaluated below the
projection. -/
theorem spent_script (hp : plan.predicate = some p) (source : Feed) (n : Nat) :
    (plan.script source).spent n =
      (((Script.ofFeed source).range plan.start plan.stop 0).filter p 0 0).spent n := by
  rw [script_eq, hp]
  cases plan.projection with
  | none => rfl
  | some columns => exact Script.spent_project n columns _

/-- At any time, the calls made so far are those of one evaluation of each source row from the start of
the window up to the last row drawn, in order and on the row as the source has it. Rows past the window
are not drawn. -/
theorem evaluates_once {schema : Schema} {options : ScanOptions}
    (h : (validate schema options).result = .ok plan) (hp : plan.predicate = some p)
    (source : Feed) (calls : List Request) :
    let past := RowStream.run calls (plan.stream source)
    past.trace.calls =
        ((source.rows.take past.trace.draws).drop plan.start).flatMap p.calls ∧
      ∀ last ∈ plan.stop, past.trace.draws ≤ last + 1 := by
  obtain ⟨-, htrace⟩ := plan.run_script source calls
  rw [spent_script hp] at htrace
  have hc := carries_of_check h
  obtain ⟨-, hdraws⟩ := hc.draws_run source calls
  refine ⟨?_, fun last hlast => ?_⟩
  · rw [htrace]
    exact Script.spent_filter_range p plan.start plan.stop 0 0 _ source 0
  · have hstop : options.stop = some (last : Int) := by
      rw [← hc.stop, hlast]
      rfl
    rw [hdraws]
    exact ScanOptions.drawsFor_le_stop hstop source.rows _

/-- A test of the caller on a column that is not handed out. -/
def watchingOptions : ScanOptions where
  start := some 1
  stop := some 3
  predicate := some (.userDefined ⟨1, .utf8⟩ .stored ⟨"gap", Value.isNull⟩)
  projection := some [0]

theorem evaluates_once_watching :
    ∃ plan, (validate ScanBuilder.resuming.schema watchingOptions).result = .ok plan ∧
      (RowStream.run [.hasNext, .hasNext, .next, .hasNext]
          (plan.stream ScanBuilder.resuming.source)).trace.calls =
        [⟨"gap", .null⟩, ⟨"gap", .utf8 "v"⟩, ⟨"gap", .utf8 "w"⟩] := by
  let plan : ScanPlan := ⟨1, some 3, watchingOptions.predicate, some [0], ⟨[⟨"size", .int32⟩]⟩⟩
  have hplan : (validate ScanBuilder.resuming.schema watchingOptions).result = .ok plan := rfl
  obtain ⟨hcalls, -⟩ := evaluates_once hplan rfl ScanBuilder.resuming.source
    [.hasNext, .hasNext, .next, .hasNext]
  have hdraws : (RowStream.run [.hasNext, .hasNext, .next, .hasNext]
      (plan.stream ScanBuilder.resuming.source)).trace.draws = 4 := by decide +kernel
  rw [hdraws] at hcalls
  exact ⟨plan, hplan, hcalls⟩

end ScanPlan

end TableScan
