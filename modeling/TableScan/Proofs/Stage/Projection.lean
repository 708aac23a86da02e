import TableScan.Cursor.Faulty
import TableScan.Proofs.Bisimulation
import TableScan.Proofs.Predicate.Renaming

/-!
Filters and projections. A filter of projected rows may as well filter the rows themselves, by the
predicate with its columns renamed, and leave the projection for later. Both keep the same row at any
time, the one already projected and the other not yet.
-/

namespace TableScan

variable {σ : Type}

theorem Predicate.holds_through (p : Predicate) (positions : List Nat) (row : Row) :
    (p.through positions).holds row = p.holds (row.project positions) :=
  congrArg Verdict.holds (p.evaluate_project positions row).symm

theorem Predicate.calls_through (p : Predicate) (positions : List Nat) (row : Row) :
    (p.through positions).calls row = p.calls (row.project positions) :=
  congrArg Verdict.calls (p.evaluate_project positions row).symm

namespace FilterState

variable {c : Cursor σ} {positions : List Nat} {p : Predicate}

/-- The state with the kept row projected. -/
def projected (positions : List Nat) (s : FilterState σ) : FilterState σ :=
  { s with pending := s.pending.map (·.project positions) }

/-- A reply in which the kept row is projected, and otherwise the same. -/
abbrev Projects (positions : List Nat) {α : Type} (a b : Reply (FilterState σ) α) : Prop :=
  a.Matches (fun s t => s = t.projected positions) b

/-- A row is turned down on both sides or on neither, by the same calls. The induction follows the search
among the rows themselves. -/
theorem seek_projected (c : Cursor σ) (positions : List Nat) (p : Predicate) (s : FilterState σ) :
    Projects positions (seek (c.project positions) p (s.projected positions))
      (seek c (p.through positions) s) := by
  fun_induction seek c (p.through positions) s with
  | case1 s look hlook drawn e hrow =>
    have hrow' : ((c.project positions).nextRow look.state).answer = .error e :=
      congrArg (Except.map _) hrow
    rw [seek_of_error (c := c.project positions) (s := s.projected positions) hlook hrow']
    exact ⟨rfl, rfl, rfl⟩
  | case2 s look hlook drawn row hrow verdict trace haccepted =>
    have hrow' : ((c.project positions).nextRow look.state).answer = .ok (row.project positions) :=
      congrArg (Except.map _) hrow
    have hp : p.holds (row.project positions) = true := (p.holds_through _ row).symm.trans haccepted
    rw [seek_of_accepted (c := c.project positions) (s := s.projected positions) hlook hrow' hp,
      ← p.calls_through]
    exact ⟨rfl, rfl, rfl⟩
  | case3 s look hlook drawn row hrow verdict trace hrejected ih =>
    have hrow' : ((c.project positions).nextRow look.state).answer = .ok (row.project positions) :=
      congrArg (Except.map _) hrow
    have hp : p.holds (row.project positions) = false :=
      (p.holds_through _ row).symm.trans (Bool.eq_false_iff.mpr hrejected)
    rw [seek_of_rejected (c := c.project positions) (s := s.projected positions) hlook hrow' hp,
      ← p.calls_through]
    exact ih.after rfl
  | case4 s look hlook =>
    have hlook' : ((c.project positions).hasNext s.inner).answer = false :=
      Bool.eq_false_iff.mpr hlook
    rw [seek_of_end (c := c.project positions) (s := s.projected positions) hlook']
    exact ⟨rfl, rfl, rfl⟩

theorem hasNext_projected (c : Cursor σ) (positions : List Nat) (p : Predicate) (s : FilterState σ) :
    Projects positions (hasNext (c.project positions) p (s.projected positions))
      (hasNext c (p.through positions) s) := by
  cases hpending : s.pending with
  | some row =>
    rw [hasNext_of_pending hpending, hasNext_of_pending (s := s.projected positions)
      (congrArg (Option.map _) hpending)]
    exact ⟨rfl, rfl, rfl⟩
  | none =>
    have hpending' : (s.projected positions).pending = none := congrArg (Option.map _) hpending
    cases hx : s.exhausted with
    | true =>
      rw [hasNext_of_exhausted hpending hx,
        hasNext_of_exhausted (s := s.projected positions) hpending' hx]
      exact ⟨rfl, rfl, rfl⟩
    | false =>
      rw [hasNext_of_running hpending hx,
        hasNext_of_running (s := s.projected positions) hpending' hx]
      exact seek_projected c positions p s

/-- The kept row is handed out projected, or is projected as it is handed out. -/
theorem handOut_projected (positions : List Nat) (s : FilterState σ) :
    Projects positions (s.projected positions).handOut
      (s.handOut.map (·.map (·.project positions))) := by
  obtain ⟨inner, pending, examined, rejected, exhausted⟩ := s
  cases pending <;> exact ⟨rfl, rfl, rfl⟩

end FilterState

theorem Cursor.project_bisimulation (c : Cursor σ) (positions : List Nat) (p : Predicate) :
    ((c.project positions).filter p).Bisimulation
      ((c.filter (p.through positions)).project positions)
      fun s t => s = t.projected positions where
  hasNext := by
    rintro _ s rfl
    exact FilterState.hasNext_projected c positions p s
  nextRow := by
    rintro _ s rfl
    have hlook := FilterState.hasNext_projected c positions p s
    have hrow := FilterState.handOut_projected positions
      (FilterState.hasNext c (p.through positions) s).state
    rw [← hlook.state] at hrow
    exact hrow.after hlook.trace

/-- Filtering projected rows by a predicate is filtering the rows by the predicate with its columns
renamed. On any row the two come to the same verdict by the same calls; over any base the two stacks
answer the same and do the same, whatever is asked for; and where all projected columns exist, the one
predicate is valid for the projected columns just if the other is for all columns. -/
theorem Stack.filter_project (positions : List Nat) (p : Predicate) :
    (∀ row : Row, p.evaluate (row.project positions) = (p.through positions).evaluate row) ∧
      (∀ {σ : Type} (base : Cursor σ) (s : σ) (calls : List Request),
        let late := (Stack.cursor base [.project positions, .filter p]).run calls
          (Stack.start s [.project positions, .filter p])
        let early := (Stack.cursor base [.filter (p.through positions), .project positions]).run calls
          (Stack.start s [.filter (p.through positions), .project positions])
        late.answer = early.answer ∧ late.trace = early.trace) ∧
      ∀ schema : Schema, (∀ position ∈ positions, position < schema.width) →
        (p.validate (schema.project positions).catalog = .ok () ↔
          (p.through positions).validate schema.catalog = .ok ()) := by
  refine ⟨p.evaluate_project positions, fun base s calls => ?_, fun schema h => ?_⟩
  · have hstart : FilterState.start s = (FilterState.start s).projected positions := rfl
    have hrun := (base.project_bisimulation positions p).run hstart calls
    exact ⟨hrun.answer, hrun.trace⟩
  · exact (p.validate_through_iff h).symm

/-- The second column comes twice and the first after it. The fourth column of the projected rows is
none, and a test of it is not valid on either side. The second entry below the stacks does not arrive. -/
theorem Stack.filter_project_repeated :
    let schema : Schema := ⟨[⟨"size", .int32⟩, ⟨"label", .utf8⟩]⟩
    let size : Predicate := .comparison ⟨2, .int64⟩ .geq (.int32 4)
    let seen : Predicate := .userDefined ⟨3, .utf8⟩ .stored ⟨"seen", fun cell => cell == .null⟩
    let late := [.project [1, 1, 0], .filter (.and size seen)]
    let early := [.filter ((Predicate.and size seen).through [1, 1, 0]), .project [1, 1, 0]]
    let entries := [some ⟨"a", [.int32 4]⟩, none, some ⟨"b", [.int32 2]⟩]
    (size.through [1, 1, 0]).validate schema.catalog = .ok () ∧
      (seen.through [1, 1, 0]).validate schema.catalog ≠ .ok () ∧
      ((Predicate.and size seen).through [1, 1, 0]).evaluate ⟨"a", [.int32 4]⟩ =
        ⟨true, [⟨"seen", .null⟩]⟩ ∧
      ((Stack.cursor Faulty.cursor late).run [.nextRow, .hasNext] (Stack.start entries late)).answer =
        ((Stack.cursor Faulty.cursor early).run [.nextRow, .hasNext]
          (Stack.start entries early)).answer := by
  intro schema size seen late early entries
  have hpositions : ∀ position ∈ [1, 1, 0], position < schema.width := by decide
  refine ⟨?_, ?_, ?_, ?_⟩
  · exact ((Stack.filter_project [1, 1, 0] size).2.2 schema hpositions).mp rfl
  · exact mt ((Stack.filter_project [1, 1, 0] seen).2.2 schema hpositions).mpr (by decide)
  · exact ((Stack.filter_project [1, 1, 0] (.and size seen)).1 _).symm.trans (by decide)
  · exact ((Stack.filter_project [1, 1, 0] (.and size seen)).2.1 _ _ _).1

end TableScan
