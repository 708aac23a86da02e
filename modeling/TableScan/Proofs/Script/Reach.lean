import TableScan.Proofs.Script.Stack

/-!
Where a script finds its rows. For every row, and for the end, it is noted how often the source has
been drawn from by then. The stages leave these notes alone: a range and a filter drop some of them,
a projection changes only the rows they belong to.
-/

namespace TableScan

/-- Whether a position lies between two bounds, both included. -/
def inWindow (first : Nat) (last : Option Nat) (position : Nat) : Bool :=
  decide (first ≤ position) && last.all (position ≤ ·)

theorem inWindow_eq_false {first position : Nat} {last : Option Nat} :
    inWindow first last position = false ↔
      position < first ∨ last.any (· < position) = true := by
  rw [inWindow, Bool.and_eq_false_iff, decide_eq_false_iff_not, Nat.not_le]
  cases last <;> simp

/-- Past the upper bound there is nothing more to keep. -/
theorem filter_inWindow_of_passed {α : Type} {first position : Nat} {last : Option Nat}
    (h : last.any (· < position) = true) (entries : List α) :
    (entries.zipIdx position).filter (fun entry => inWindow first last entry.2) = [] := by
  rw [List.filter_eq_nil_iff]
  intro entry he
  have hle : position ≤ entry.2 := List.le_snd_of_mem_zipIdx he
  rw [Bool.not_eq_true, inWindow_eq_false]
  cases last with
  | none => contradiction
  | some bound =>
    have hb : bound < position := by simpa using h
    exact .inr (by simpa using Nat.lt_of_lt_of_le hb hle)

/-- The draws by which the end of a window is seen over a source of so many rows. -/
def windowDraws (last : Option Nat) (count : Nat) : Nat :=
  match last with
  | some bound => if bound < count then bound + 1 else count + 1
  | none => count + 1

namespace Script

/-- The rows to come, each with the draws by which it is found. -/
def reached (drawn : Nat) : Script → List (Row × Nat)
  | stop _ => []
  | found trace row rest => (row, drawn + trace.draws) :: rest.reached (drawn + trace.draws)

/-- The draws by which the end is seen. -/
def drained (drawn : Nat) : Script → Nat
  | stop trace => drawn + trace.draws
  | found trace _ rest => rest.drained (drawn + trace.draws)

theorem rows_eq_reached (drawn : Nat) (s : Script) : s.rows = (s.reached drawn).map Prod.fst := by
  induction s generalizing drawn with
  | stop trace => rfl
  | found trace row rest ih => exact congrArg (row :: ·) (ih _)

/-- The draws that it takes to look for so many rows. -/
theorem draws_spent_succ (drawn n : Nat) (s : Script) :
    drawn + (s.spent (n + 1)).draws =
      ((s.reached drawn)[n]?.map Prod.snd).getD (s.drained drawn) := by
  induction s generalizing drawn n with
  | stop trace => rfl
  | found trace row rest ih =>
    rw [spent, Trace.draws_append, ← Nat.add_assoc]
    cases n with
    | zero => rfl
    | succ n => exact ih _ n

@[simp] theorem reached_after (before : Trace) (drawn : Nat) (s : Script) :
    (s.after before).reached drawn = s.reached (drawn + before.draws) := by
  cases s <;> simp [after, reached, Nat.add_assoc]

@[simp] theorem drained_after (before : Trace) (drawn : Nat) (s : Script) :
    (s.after before).drained drawn = s.drained (drawn + before.draws) := by
  cases s <;> simp [after, drained, Nat.add_assoc]

/-- Every row of a source is one draw. -/
theorem reached_ofFeed (drawn : Nat) (feed : Feed) :
    (ofFeed feed).reached drawn = feed.rows.zipIdx (drawn + 1) := by
  induction feed generalizing drawn with
  | nil => rfl
  | cons answer rest ih =>
    cases answer with
    | none => rfl
    | some row => exact congrArg ((row, drawn + 1) :: ·) (ih (drawn + 1))

theorem reached_range (first : Nat) (last : Option Nat) (position drawn : Nat) (s : Script) :
    (s.range first last position).reached drawn =
      (((s.reached drawn).zipIdx position).filter fun entry => inWindow first last entry.2).map
        Prod.fst := by
  induction s generalizing position drawn with
  | stop trace => rfl
  | found trace row rest ih =>
    have hn := ih (position + 1) (drawn + trace.draws)
    rw [range, reached, List.zipIdx_cons]
    by_cases hp : position < first
    · have hw : ¬inWindow first last position = true := by simp [inWindow_eq_false, hp]
      rw [if_pos hp, List.filter_cons_of_neg (by exact hw), reached_after, hn]
    · rw [if_neg hp]
      by_cases ht : last.any (· < position) = true
      · rw [if_pos ht, ← List.zipIdx_cons, filter_inWindow_of_passed ht]
        rfl
      · have hw : inWindow first last position = true := by
          rw [← Bool.not_eq_false, inWindow_eq_false, not_or]
          exact ⟨hp, ht⟩
        rw [if_neg ht, List.filter_cons_of_pos (by exact hw), reached, hn, List.map_cons]

theorem reached_filter (p : Predicate) (examined rejected drawn : Nat) (s : Script) :
    (s.filter p examined rejected).reached drawn =
      (s.reached drawn).filter fun entry => p.holds entry.1 := by
  induction s generalizing examined rejected drawn with
  | stop trace => rfl
  | found trace row rest ih =>
    have hd : (trace ++ .ofCalls (p.calls row)).draws = trace.draws := Nat.add_zero _
    simp only [filter, reached]
    split
    · rename_i hp
      rw [List.filter_cons_of_pos (by exact hp), reached, hd, ih]
    · rename_i hp
      rw [List.filter_cons_of_neg (by exact hp), reached_after, hd, ih]

theorem drained_filter (p : Predicate) (examined rejected drawn : Nat) (s : Script) :
    (s.filter p examined rejected).drained drawn = s.drained drawn := by
  induction s generalizing examined rejected drawn with
  | stop trace => rfl
  | found trace row rest ih =>
    have hd : (trace ++ .ofCalls (p.calls row)).draws = trace.draws := Nat.add_zero _
    simp only [filter, drained]
    split
    · rw [drained, hd, ih]
    · rw [drained_after, hd, ih]

theorem reached_project (columns : List Nat) (drawn : Nat) (s : Script) :
    (s.project columns).reached drawn =
      (s.reached drawn).map fun entry => (entry.1.project columns, entry.2) := by
  induction s generalizing drawn with
  | stop trace => rfl
  | found trace row rest ih => exact congrArg ((row.project columns, drawn + trace.draws) :: ·) (ih _)

theorem drained_project (columns : List Nat) (drawn : Nat) (s : Script) :
    (s.project columns).drained drawn = s.drained drawn := by
  induction s generalizing drawn with
  | stop trace => rfl
  | found trace row rest ih => exact ih _

/-- At the end of a source one more draw tells so, unless the window was over before. -/
theorem drained_range_stop {first : Nat} {last : Option Nat} {position : Nat}
    (hordered : ∀ bound ∈ last, first ≤ bound) (hreached : ∀ bound ∈ last, position ≤ bound + 1) :
    ((stop (.ofDraws 1)).range first last position).drained position = windowDraws last position := by
  cases last with
  | none =>
    rw [range, if_neg (fun h => Bool.false_ne_true h.2)]
    rfl
  | some bound =>
    have hf := hordered bound rfl
    have hr := hreached bound rfl
    by_cases hp : bound < position
    · have hw : first ≤ position ∧ (some bound).any (· < position) = true :=
        ⟨by omega, by simpa using hp⟩
      rw [range, if_pos hw, windowDraws, if_pos hp]
      exact Nat.le_antisymm hr hp
    · have hw : ¬(first ≤ position ∧ (some bound).any (· < position) = true) := by
        simp [hp]
      rw [range, if_neg hw, windowDraws, if_neg hp]
      rfl

/-- A window over a source sees its end at its upper bound if there are more rows, and otherwise by
one draw more than there are rows. -/
theorem drained_range_ofFeed {first : Nat} {last : Option Nat} {position : Nat} (feed : Feed)
    (hordered : ∀ bound ∈ last, first ≤ bound) (hreached : ∀ bound ∈ last, position ≤ bound + 1) :
    ((ofFeed feed).range first last position).drained position =
      windowDraws last (position + feed.rows.length) := by
  induction feed generalizing position with
  | nil => exact drained_range_stop hordered hreached
  | cons answer rest ih =>
    cases answer with
    | none => exact drained_range_stop hordered hreached
    | some row =>
      have hlength : position + (row :: Feed.rows rest).length =
          position + 1 + (Feed.rows rest).length := by
        rw [List.length_cons]
        omega
      rw [ofFeed, range, Feed.rows, hlength]
      by_cases hp : position < first
      · rw [if_pos hp, drained_after]
        refine @ih (position + 1) fun bound hb => ?_
        have hf := hordered bound hb
        omega
      · rw [if_neg hp]
        by_cases ht : last.any (· < position) = true
        · -- all rows of the window were drawn, so nothing is left to draw
          rw [if_pos ht]
          cases last with
          | none => contradiction
          | some bound =>
            have hb : bound < position := by simpa using ht
            have hr := hreached bound rfl
            rw [windowDraws, if_pos (by omega)]
            exact Nat.le_antisymm hr hb
        · rw [if_neg ht]
          refine @ih (position + 1) fun bound hb => ?_
          cases hb
          have hb : ¬bound < position := by simpa using ht
          omega

end Script

end TableScan
