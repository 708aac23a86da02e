import TableScan.Proofs.Script.Reach

/-!
The rows of a stack. Each stage stands for an operation on whole lists, and a stack over a source
hands out the list that its stages make of the source's rows, from the base outward. The operations are
written down here without the stages: by positions, by what the predicate says of a row, and by the cells
of a row, missing where the row has none.
-/

namespace TableScan

def Stage.rows : Stage → List Row → List Row
  | range first last, rows =>
    (rows.zipIdx.filter fun entry => inWindow first last entry.2).map Prod.fst
  | filter p, rows => rows.filter p.holds
  | project columns, rows =>
    rows.map fun row => ⟨row.key, columns.map fun i => row.cells[i]?.getD .null⟩

def Stack.rows (stages : List Stage) (rows : List Row) : List Row :=
  stages.foldl (fun rows stage => stage.rows rows) rows

namespace Script

theorem rows_ofFeed (feed : Feed) : (ofFeed feed).rows = feed.rows := by
  rw [rows_eq_reached 0, reached_ofFeed, List.zipIdx_map_fst]

theorem rows_range (first : Nat) (last : Option Nat) (position : Nat) (s : Script) :
    (s.range first last position).rows =
      ((s.rows.zipIdx position).filter fun entry => inWindow first last entry.2).map Prod.fst := by
  rw [rows_eq_reached 0, reached_range, s.rows_eq_reached 0, List.zipIdx_map, List.filter_map,
    List.map_map, List.map_map]
  rfl

theorem rows_filter (p : Predicate) (examined rejected : Nat) (s : Script) :
    (s.filter p examined rejected).rows = s.rows.filter p.holds := by
  rw [rows_eq_reached 0, reached_filter, s.rows_eq_reached 0, List.filter_map]
  rfl

theorem rows_project (columns : List Nat) (s : Script) :
    (s.project columns).rows = s.rows.map (·.project columns) := by
  rw [rows_eq_reached 0, reached_project, s.rows_eq_reached 0, List.map_map, List.map_map]
  rfl

end Script

theorem Stage.rows_script (stage : Stage) (s : Script) :
    (stage.script s).rows = stage.rows s.rows := by
  cases stage with
  | range first last => exact s.rows_range first last 0
  | filter p => exact s.rows_filter p 0 0
  | project columns => exact s.rows_project columns

theorem Stack.rows_script (stages : List Stage) (s : Script) :
    (Stack.script stages s).rows = Stack.rows stages s.rows := by
  induction stages generalizing s with
  | nil => rfl
  | cons stage outer ih =>
    have h := ih (stage.script s)
    rw [stage.rows_script] at h
    exact h

/-- A stack over a source serves what its stages make of the rows of the source. -/
theorem Stack.serves (stages : List Stage) (feed : Feed) :
    Serves (Stack.cursor Lookahead.cursor stages).ask
      (Stack.start (Lookahead.start feed) stages) (Stack.rows stages feed.rows) := by
  have h := (Stack.script_alike (Lookahead.start_alike feed) stages).serves (Script.serves _)
  rwa [Stack.rows_script, Script.rows_ofFeed] at h

theorem Stack.rows_append (stages outer : List Stage) (rows : List Row) :
    Stack.rows (stages ++ outer) rows = Stack.rows outer (Stack.rows stages rows) :=
  List.foldl_append

theorem Stack.rows_nil (stages : List Stage) : Stack.rows stages [] = [] := by
  induction stages with
  | nil => rfl
  | cons stage outer ih => cases stage <;> exact ih

/-- A window that ends before it begins is empty. -/
theorem Stage.rows_range_inverted {first last : Nat} (h : last < first) (rows : List Row) :
    (Stage.range first (some last)).rows rows = [] := by
  have hf : rows.zipIdx.filter (fun entry => inWindow first (some last) entry.2) = [] := by
    rw [List.filter_eq_nil_iff]
    intro entry _
    rw [Bool.not_eq_true, inWindow_eq_false]
    rcases Nat.lt_or_ge entry.2 first with hlt | hge
    · exact .inl hlt
    · exact .inr (by simpa using Nat.lt_of_lt_of_le h hge)
  rw [Stage.rows, hf]
  rfl

/-- Whatever the stages and their order, no run can tell a stack over a source from the list that
its stages make of the rows of the source. A range above a filter counts the rows that the filter
keeps, and with a range that ends before it begins nothing is left. -/
theorem Stack.refines_rows (stages outer : List Stage) (feed : Feed) :
    Serves (Stack.cursor Lookahead.cursor stages).ask
        (Stack.start (Lookahead.start feed) stages) (Stack.rows stages feed.rows) ∧
      (∀ p first last, Stack.rows (stages ++ [.filter p, .range first last]) feed.rows =
        (Stage.range first last).rows ((Stack.rows stages feed.rows).filter p.holds)) ∧
      ∀ first last, last < first →
        Stack.rows (stages ++ .range first (some last) :: outer) feed.rows = [] := by
  refine ⟨Stack.serves stages feed, fun p first last => ?_, fun first last h => ?_⟩
  · rw [Stack.rows_append]
    rfl
  · have hw : (Stage.range first (some last)).rows (Stack.rows stages feed.rows) = [] :=
      Stage.rows_range_inverted h _
    rw [Stack.rows_append, ← Stack.rows_nil outer, ← hw]
    rfl

/-- A range that drops the first row that the filter keeps, below a projection past the end of the rows,
and a range that ends before it begins. -/
theorem Stack.refines_rows_inverted :
    let source : Feed :=
      [some ⟨"a", [.null]⟩, some ⟨"b", [.int32 4]⟩, some ⟨"c", []⟩, some ⟨"d", [.int32 6]⟩]
    let large : Predicate := .comparison ⟨0, .int32⟩ .gt (.int32 3)
    let stages := [.filter large, .range 1 (some 1), .project [2, 0]]
    let c := Stack.cursor Lookahead.cursor stages
    let s := Stack.start (Lookahead.start source) stages
    (c.ask s .nextRow).answer = .row (.ok ⟨"d", [.null, .int32 6]⟩) ∧
      Stack.rows [.project [0], .filter large, .range 1 (some 1)] source.rows =
        [⟨"d", [.int32 6]⟩] ∧
      Stack.rows [.project [0], .range 2 (some 1), .filter large] source.rows = [] := by
  intro source large stages c s
  have hrows : Stack.rows stages source.rows = [⟨"d", [.null, .int32 6]⟩] := by decide +kernel
  refine ⟨?_, ?_, ?_⟩
  · obtain ⟨-, hanswer⟩ := (Stack.refines_rows stages [] source).1 [] .nextRow
    rw [hrows] at hanswer
    exact hanswer
  · exact ((Stack.refines_rows [.project [0]] [] source).2.1 large 1 (some 1)).trans
      (by decide +kernel)
  · exact (Stack.refines_rows [.project [0]] [.filter large] source).2.2 2 1 (by decide)

end TableScan
