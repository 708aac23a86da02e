import TableScan.Proofs.Predicate.Reads
import TableScan.Proofs.Scan.Rows

/-!
Columns that a scan does not read. Two sources whose rows agree at the columns of the predicate and of
the projection come out of the range and the filter in lockstep: the same rows are kept, and the same is
done for each. The projection then takes away what they still differ in, so that both scans follow one
script and no run can tell them apart.
-/

namespace TableScan

namespace Script

variable {R : Row → Row → Prop} {s t : Script}

/-- Scripts that do the same, with rows that are related one by one. -/
inductive Paired (R : Row → Row → Prop) : Script → Script → Prop
  | stop (trace : Trace) : Paired R (stop trace) (stop trace)
  | found (trace : Trace) {row other : Row} {rest others : Script} :
      R row other → Paired R rest others →
      Paired R (found trace row rest) (found trace other others)

theorem Paired.after (h : s.Paired R t) (before : Trace) :
    (s.after before).Paired R (t.after before) := by
  cases h with
  | stop trace => exact .stop _
  | found trace hrow hrest => exact .found _ hrow hrest

theorem paired_ofFeed {source other : Feed} (h : List.Forall₂ R source.rows other.rows) :
    (ofFeed source).Paired R (ofFeed other) := by
  induction source generalizing other with
  | nil =>
    rcases other with _ | ⟨_ | row, others⟩
    · exact .stop _
    · exact .stop _
    · cases h
  | cons answer rest ih =>
    rcases answer with _ | row <;> rcases other with _ | ⟨_ | other, others⟩
    · exact .stop _
    · exact .stop _
    · cases h
    · cases h
    · cases h
    · cases h with
      | cons hrow hrest => exact .found _ hrow (ih hrest)

theorem Paired.range (h : s.Paired R t) (first : Nat) (last : Option Nat) (position : Nat) :
    (s.range first last position).Paired R (t.range first last position) := by
  induction h generalizing position with
  | stop trace => exact .stop _
  | found trace hrow hrest ih =>
    rw [Script.range, Script.range]
    split
    · exact (ih (position + 1)).after trace
    · split
      · exact .stop _
      · exact .found trace hrow (ih (position + 1))

/-- Where related rows get one verdict, a filter keeps or drops both. -/
theorem Paired.filter (h : s.Paired R t) {p : Predicate}
    (hp : ∀ row other, R row other → p.evaluate row = p.evaluate other) (examined rejected : Nat) :
    (s.filter p examined rejected).Paired R (t.filter p examined rejected) := by
  induction h generalizing examined rejected with
  | stop trace => exact .stop _
  | @found trace row other rest others hrow hrest ih =>
    have hholds : p.holds row = p.holds other := congrArg Verdict.holds (hp row other hrow)
    have hcalls : p.calls row = p.calls other := congrArg Verdict.calls (hp row other hrow)
    rw [Script.filter, Script.filter, hholds, hcalls]
    split
    · exact .found _ hrow (ih (examined + 1) rejected)
    · exact (ih (examined + 1) (rejected + 1)).after _

/-- Where related rows are shown alike, the projected scripts are one. -/
theorem Paired.project_eq (h : s.Paired R t) {columns : List Nat}
    (hc : ∀ row other, R row other → row.project columns = other.project columns) :
    s.project columns = t.project columns := by
  induction h with
  | stop trace => rfl
  | found trace hrow hrest ih => rw [Script.project, Script.project, hc _ _ hrow, ih]

end Script

namespace ScanPlan

/-- The columns that a plan with a projection reads: those its predicate refers to, and those that it
hands out. -/
def reads (plan : ScanPlan) : List Int :=
  (plan.predicate.map Predicate.referencedColumns).getD [] ++
    (plan.projection.getD []).map Int.ofNat

variable {plan : ScanPlan} {source other : Feed}

theorem paired_predicate {R : Row → Row → Prop} {s t : Script} (h : s.Paired R t)
    (hp : ∀ p ∈ plan.predicate, ∀ row other, R row other → p.evaluate row = p.evaluate other) :
    (Stack.script (plan.predicate.map Stage.filter).toList s).Paired R
      (Stack.script (plan.predicate.map Stage.filter).toList t) := by
  cases hpredicate : plan.predicate with
  | none => exact h
  | some p => exact h.filter (hp p hpredicate) 0 0

theorem script_eq_of_agrees {columns : List Nat} (hc : plan.projection = some columns)
    (h : List.Forall₂ (Row.Agrees plan.reads) source.rows other.rows) :
    plan.script source = plan.script other := by
  have hprojected : ∀ row other : Row, row.Agrees plan.reads other →
      row.project columns = other.project columns := by
    intro row other hrow
    rw [reads, hc] at hrow
    exact (Row.agrees_append.mp hrow).2.project_eq
  have hevaluated : ∀ p ∈ plan.predicate, ∀ row other : Row, row.Agrees plan.reads other →
      p.evaluate row = p.evaluate other := by
    intro p hp row other hrow
    rw [reads, Option.mem_def.mp hp] at hrow
    exact Predicate.evaluate_eq_of_agrees (Row.agrees_append.mp hrow).1
  have hwindow := (Script.paired_ofFeed h).range plan.start plan.stop 0
  rw [script_eq, script_eq, hc]
  exact (paired_predicate hwindow hevaluated).project_eq hprojected

/-- Plans over sources that they make one script of answer and do the same in every run. -/
theorem run_eq_of_script_eq (h : plan.script source = plan.script other) (calls : List Request) :
    (RowStream.run calls (plan.stream source)).answer =
        (RowStream.run calls (plan.stream other)).answer ∧
      (RowStream.run calls (plan.stream source)).trace =
        (RowStream.run calls (plan.stream other)).trace := by
  have hsource := (plan.stream_alike source).run calls
  have hother := (plan.stream_alike other).run calls
  rw [← h] at hother
  simp only [RowStream.run_eq, RowStream.advance]
  exact ⟨hsource.answer.trans hother.answer.symm, hsource.trace.trans hother.trace.symm⟩

/-- A plan with a projection does not see the columns that it does not read. Over two sources with as
many rows as each other, which position by position have one key and show the same at the columns of
the predicate and of the projection, every run is answered alike, row for row and failure for failure,
makes the same calls in the same order, draws as often and logs the same. The rows may differ in all
else, in their width too. -/
theorem run_eq_of_agrees (hprojection : plan.projection ≠ none)
    (h : List.Forall₂ (Row.Agrees plan.reads) source.rows other.rows) (calls : List Request) :
    let past := RowStream.run calls (plan.stream source)
    let others := RowStream.run calls (plan.stream other)
    past.answer = others.answer ∧ past.trace.calls = others.trace.calls ∧
      past.trace.draws = others.trace.draws ∧ past.trace.events = others.trace.events := by
  obtain ⟨columns, hc⟩ := Option.ne_none_iff_exists'.mp hprojection
  obtain ⟨hanswer, htrace⟩ := run_eq_of_script_eq (script_eq_of_agrees hc h) calls
  exact ⟨hanswer, congrArg Trace.calls htrace, congrArg Trace.draws htrace,
    congrArg Trace.events htrace⟩

/-- A plan that reads one column before the first and one past the last. -/
def outlyingPlan : ScanPlan where
  start := 1
  stop := some 2
  predicate := some (.and (.userDefined ⟨-1, .int64⟩ .typed ⟨"before", Value.isNull⟩)
    (.comparison ⟨0, .int32⟩ .lt (.int32 9)))
  projection := some [0, 4]
  schema := ⟨[⟨"size", .int32⟩, ⟨"far", .utf8⟩]⟩

/-- The rows differ in width, in the second column, and in whether the last one is there. -/
theorem run_eq_of_agrees_outlying :
    let source : Feed := [some ⟨"a", []⟩, some ⟨"b", [.int32 5, .utf8 "x"]⟩, none]
    let other : Feed := .ofRows [⟨"a", [.null]⟩, ⟨"b", [.int32 5, .boolean true, .null, .null, .null]⟩]
    List.Forall₂ (Row.Agrees outlyingPlan.reads) source.rows other.rows ∧
      (RowStream.run [.hasNext, .nextRow, .nextRow, .next] (outlyingPlan.stream source)).answer =
        (RowStream.run [.hasNext, .nextRow, .nextRow, .next] (outlyingPlan.stream other)).answer ∧
      (RowStream.run [.next] (outlyingPlan.stream source)).trace.draws =
        (RowStream.run [.next] (outlyingPlan.stream other)).trace.draws := by
  intro source other
  have hagrees : List.Forall₂ (Row.Agrees outlyingPlan.reads) source.rows other.rows :=
    .cons ⟨rfl, by decide⟩ (.cons ⟨rfl, by decide⟩ .nil)
  have hprojection : outlyingPlan.projection ≠ none := Option.some_ne_none _
  exact ⟨hagrees, (run_eq_of_agrees hprojection hagrees [.hasNext, .nextRow, .nextRow, .next]).1,
    (run_eq_of_agrees hprojection hagrees [.next]).2.2.1⟩

end ScanPlan

end TableScan
