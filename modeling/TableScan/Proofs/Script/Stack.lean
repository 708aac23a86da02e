import TableScan.Proofs.Foresight
import TableScan.Proofs.Script

/-!
What a stack does, as a script. A source is a script that costs a draw for each row and one for the
end. Each stage over a script is alike to a script again, in which rows are left out or changed and
what was done for a row that is left out falls to the next. A whole stack is therefore alike to one
script, whatever its stages hold ahead of their use.
-/

namespace TableScan

namespace Script

def ofFeed : Feed → Script
  | some row :: rest => found (.ofDraws 1) row (ofFeed rest)
  | _ => stop (.ofDraws 1)

/-- The rows from position `first` to `last` are kept, the first row being at the given position. The
end is seen without looking below once the position is past `last`. -/
def range (first : Nat) (last : Option Nat) : Nat → Script → Script
  | position, stop trace =>
    let finished : Trace := .ofEvent (.rangeExhausted position)
    stop (if first ≤ position ∧ last.any (· < position) then finished else trace ++ finished)
  | position, found trace row rest =>
    if position < first then (rest.range first last (position + 1)).after trace
    else if last.any (· < position) then stop (.ofEvent (.rangeExhausted position))
    else found trace row (rest.range first last (position + 1))

/-- The rows that satisfy the predicate are kept; the counts are those of the rows before. -/
def filter (p : Predicate) : Nat → Nat → Script → Script
  | examined, rejected, stop trace =>
    stop (trace ++ .ofEvent (.filterExhausted examined rejected))
  | examined, rejected, found trace row rest =>
    let seen := trace ++ .ofCalls (p.calls row)
    if p.holds row then found seen row (rest.filter p (examined + 1) rejected)
    else (rest.filter p (examined + 1) (rejected + 1)).after seen

def project (columns : List Nat) : Script → Script
  | stop trace => stop trace
  | found trace row rest => found trace (row.project columns) (rest.project columns)

end Script

/-- What a stage makes of the script below it. -/
def Stage.script : Stage → Script → Script
  | range first last, s => s.range first last 0
  | filter p, s => s.filter p 0 0
  | project columns, s => s.project columns

def Stack.script (stages : List Stage) (s : Script) : Script :=
  stages.foldl (fun s stage => stage.script s) s

/-! ## Sources -/

namespace Lookahead

/-- A held end can only have come from the source. -/
def Settled (s : Lookahead) : Prop := s.ahead = some none → s.ended = true

def script (s : Lookahead) : Script :=
  let rest := if s.ended then .stop .empty else .ofFeed s.feed
  match s.ahead with
  | some (some row) => .found .empty row rest
  | some none => .stop .empty
  | none => rest

theorem follows_script :
    cursor.Bisimulation Script.cursor fun s script => s.Settled ∧ s.script = script where
  hasNext := by
    rintro ⟨feed, ended, ahead⟩ _ ⟨hs, rfl⟩
    rcases ahead with _ | _ | row
    · cases ended with
      | true => exact ⟨rfl, rfl, fun _ => rfl, rfl⟩
      | false =>
        rcases feed with _ | ⟨_ | row, rest⟩
        · exact ⟨rfl, rfl, fun _ => rfl, rfl⟩
        · exact ⟨rfl, rfl, fun _ => rfl, rfl⟩
        · exact ⟨rfl, rfl, nofun, rfl⟩
    · exact ⟨rfl, rfl, hs, rfl⟩
    · exact ⟨rfl, rfl, hs, rfl⟩
  nextRow := by
    rintro ⟨feed, ended, ahead⟩ _ ⟨hs, rfl⟩
    rcases ahead with _ | _ | row
    · cases ended with
      | true => exact ⟨rfl, rfl, nofun, rfl⟩
      | false =>
        rcases feed with _ | ⟨_ | row, rest⟩
        · exact ⟨rfl, rfl, nofun, rfl⟩
        · exact ⟨rfl, rfl, nofun, rfl⟩
        · exact ⟨rfl, rfl, nofun, rfl⟩
    · obtain rfl : ended = true := hs rfl
      exact ⟨rfl, rfl, nofun, rfl⟩
    · exact ⟨rfl, rfl, nofun, rfl⟩

theorem start_alike (feed : Feed) :
    cursor.Alike (start feed) Script.cursor (Script.ofFeed feed) :=
  ⟨_, follows_script, nofun, rfl⟩

end Lookahead

/-! ## Stages over a script -/

theorem Script.nextRow_eq (s : Script) : s.nextRow = (s.looked.nextRow).after (s.spent 1) := by
  cases s <;> simp [nextRow, looked, spent, Reply.after]

@[simp] theorem Script.looked_after (before : Trace) (s : Script) :
    (s.after before).looked = s.looked := by
  cases s <;> rfl

theorem Script.spent_after (before : Trace) (n : Nat) (s : Script) :
    (s.after before).spent (n + 1) = before ++ s.spent (n + 1) := by
  cases s <;> simp [after, spent, Trace.append_assoc]

theorem Script.hasNext_after (before : Trace) (s : Script) :
    (s.after before).hasNext = s.hasNext.after before := by
  simp [hasNext, Reply.after, spent_after]

/-- A filter over a script, as a script. A kept row is found already. -/
def FilterState.script (p : Predicate) (s : FilterState Script) : Script :=
  let rest := if s.exhausted then .stop .empty else s.inner.filter p s.examined s.rejected
  match s.pending with
  | some row => .found .empty row rest
  | none => rest

theorem FilterState.seek_script (p : Predicate) (inner : Script) (examined rejected : Nat) :
    (seek Script.cursor p ⟨inner, none, examined, rejected, false⟩).Matches
      (fun s script => s.script p = script) (inner.filter p examined rejected).hasNext := by
  induction inner generalizing examined rejected with
  | stop trace =>
    rw [seek_of_end rfl]
    exact ⟨rfl, rfl, rfl⟩
  | found trace row rest ih =>
    cases hp : p.holds row with
    | true =>
      rw [seek_of_accepted rfl rfl hp, Script.filter, if_pos hp]
      exact ⟨rfl, by simp, by simp [accept, script]⟩
    | false =>
      rw [seek_of_rejected rfl rfl hp, Script.filter, if_neg (by simp [hp]), Script.hasNext_after]
      simp only [Script.cursor_hasNext, Script.hasNext_found, Script.cursor_nextRow,
        Script.nextRow_found, Trace.append_empty]
      exact (ih (examined + 1) (rejected + 1)).after rfl

theorem FilterState.hasNext_script (p : Predicate) (s : FilterState Script) :
    (hasNext Script.cursor p s).Matches (fun s script => s.script p = script)
      (s.script p).hasNext := by
  obtain ⟨inner, pending, examined, rejected, exhausted⟩ := s
  cases pending with
  | some row => exact ⟨rfl, rfl, rfl⟩
  | none =>
    cases exhausted with
    | true => exact ⟨rfl, rfl, rfl⟩
    | false => exact seek_script p inner examined rejected

theorem FilterState.handOut_script (p : Predicate) (s : FilterState Script)
    (hs : s.pending = none → s.exhausted = true) :
    s.handOut.Matches (fun s script => s.script p = script) (s.script p).nextRow := by
  obtain ⟨inner, pending, examined, rejected, exhausted⟩ := s
  cases pending with
  | some row => exact ⟨rfl, rfl, rfl⟩
  | none =>
    obtain rfl : exhausted = true := hs rfl
    exact ⟨rfl, rfl, rfl⟩

theorem Script.filter_alike (p : Predicate) (s : Script) :
    (cursor.filter p).Alike (.start s) cursor (s.filter p 0 0) := by
  refine ⟨fun s script => s.script p = script, ⟨?_, ?_⟩, rfl⟩
  · rintro s _ rfl
    exact s.hasNext_script p
  · rintro s _ rfl
    have hl := s.hasNext_script p
    obtain ⟨hp, hx⟩ := s.hasNext_outcome cursor p
    have hh := (FilterState.hasNext cursor p s).state.handOut_script p fun hn =>
      hx (by rw [hp, hn]; rfl)
    -- a request is a look, and then the row that it kept
    change (FilterState.nextRow cursor p s).Matches _ (s.script p).nextRow
    rw [nextRow_eq, FilterState.nextRow, hl.trace]
    rw [hl.state] at hh
    exact hh.after rfl

/-- A range over a script, as a script. -/
def RangeState.script (first : Nat) (last : Option Nat) (s : RangeState Script) : Script :=
  if s.exhausted then .stop .empty else s.inner.range first last s.position

theorem RangeState.running_script (first : Nat) (last : Option Nat) (inner : Script)
    (position : Nat) :
    (hasNext Script.cursor first last ⟨inner, position, false⟩).Matches
      (fun s script => s.script first last = script)
      (inner.range first last position).hasNext := by
  induction inner generalizing position with
  | stop trace =>
    by_cases hp : position < first
    · rw [hasNext_of_skip_end hp rfl, Script.range, if_neg (by omega)]
      exact ⟨rfl, rfl, rfl⟩
    · have hp' : first ≤ position := Nat.le_of_not_lt hp
      cases ht : last.any (· < position) with
      | true =>
        rw [hasNext_of_passed hp' ht, Script.range, if_pos ⟨hp', ht⟩]
        exact ⟨rfl, rfl, rfl⟩
      | false =>
        have hr : Script.range first last position (.stop trace) =
            .stop (trace ++ .ofEvent (.rangeExhausted position)) := by
          simp [Script.range, ht]
        rw [hasNext_of_window hp' ht, hr]
        exact ⟨rfl, rfl, rfl⟩
  | found trace row rest ih =>
    by_cases hp : position < first
    · rw [hasNext_of_skipped hp rfl rfl, Script.range, if_pos hp, Script.hasNext_after]
      simp only [Script.cursor_hasNext, Script.hasNext_found, Script.cursor_nextRow,
        Script.nextRow_found, Trace.append_empty]
      exact (ih (position + 1)).after rfl
    · have hp' : first ≤ position := Nat.le_of_not_lt hp
      rw [Script.range, if_neg hp]
      cases ht : last.any (· < position) with
      | true =>
        rw [hasNext_of_passed hp' ht]
        exact ⟨rfl, rfl, rfl⟩
      | false =>
        rw [hasNext_of_window hp' ht]
        simp only [Script.cursor_hasNext, Script.hasNext_found, if_true, Bool.false_eq_true, if_false]
        exact ⟨rfl, rfl, by simp [script, Script.range, hp, ht]⟩

theorem RangeState.hasNext_script (first : Nat) (last : Option Nat) (s : RangeState Script) :
    (hasNext Script.cursor first last s).Matches (fun s script => s.script first last = script)
      (s.script first last).hasNext := by
  obtain ⟨inner, position, exhausted⟩ := s
  cases exhausted with
  | true => exact ⟨rfl, rfl, rfl⟩
  | false => exact running_script first last inner position

theorem Script.range_alike (first : Nat) (last : Option Nat) (s : Script) :
    (cursor.range first last).Alike (.start s) cursor (s.range first last 0) := by
  refine ⟨fun s script => s.script first last = script, ⟨?_, ?_⟩, rfl⟩
  · rintro s _ rfl
    exact s.hasNext_script first last
  · rintro s _ rfl
    have hl := s.hasNext_script first last
    have hstate : _ = (s.script first last).looked := hl.state
    have htrace : _ = (s.script first last).spent 1 := hl.trace
    have ho := s.hasNext_outcome cursor first last
    change (RangeState.nextRow cursor first last s).Matches _ (s.script first last).nextRow
    rw [nextRow_eq, RangeState.nextRow, ← hstate, ← htrace]
    clear hl hstate htrace
    generalize RangeState.hasNext cursor first last s = look at ho ⊢
    obtain ⟨answer, state, trace⟩ := look
    obtain ⟨rfl, hx⟩ | ⟨u, position, rfl, rfl, hfirst, hlast, hu⟩ := ho
    · rw [RangeState.script, if_pos hx]
      exact ⟨rfl, (Trace.append_empty _).symm, if_pos hx⟩
    · -- below the range a row is already seen, so the request hands it out at once
      cases u with
      | stop trace => contradiction
      | found trace' row rest =>
        simp only [cursor_hasNext, hasNext_found, cursor_nextRow, nextRow_found, RangeState.script,
          range, Nat.not_lt.mpr hfirst, hlast, Bool.false_eq_true, if_false, if_true]
        exact ⟨rfl, rfl, rfl⟩

theorem Script.project_alike (columns : List Nat) (s : Script) :
    (cursor.project columns).Alike s cursor (s.project columns) := by
  refine ⟨fun s script => s.project columns = script, ⟨?_, ?_⟩, rfl⟩
  · rintro s _ rfl
    cases s with
    | stop trace => exact ⟨rfl, rfl, rfl⟩
    | found trace row rest => exact ⟨rfl, rfl, rfl⟩
  · rintro s _ rfl
    cases s with
    | stop trace => exact ⟨rfl, rfl, rfl⟩
    | found trace row rest => exact ⟨rfl, rfl, rfl⟩

theorem Stage.script_alike (stage : Stage) (s : Script) :
    (stage.cursor Script.cursor).Alike (stage.start s) Script.cursor (stage.script s) := by
  cases stage with
  | range first last => exact s.range_alike first last
  | filter p => exact s.filter_alike p
  | project columns => exact s.project_alike columns

/-- A stack over anything that follows a script follows what its stages make of the script. -/
theorem Stack.script_alike {σ : Type} {c : Cursor σ} {s : σ} {script : Script}
    (h : c.Alike s Script.cursor script) (stages : List Stage) :
    (Stack.cursor c stages).Alike (Stack.start s stages) Script.cursor
      (Stack.script stages script) := by
  induction stages generalizing σ script with
  | nil => exact h
  | cons stage outer ih => exact ih ((h.stage stage).trans (stage.script_alike script))

end TableScan
