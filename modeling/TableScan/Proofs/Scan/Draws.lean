import TableScan.Proofs.Scan.Rows

/-!
The draws of a scan. However a stream is called, its source has been drawn from exactly up to the
position of the last row that was looked for, and the end is seen at the upper bound of the window
or else by one draw more than the source has rows.
-/

namespace TableScan

/-- The positions of the rows that are handed out. -/
def ScanOptions.positions (options : ScanOptions) (source : List Row) : List Nat :=
  (options.selected source).map Prod.snd

/-- The draws by which the end of the scan is seen. -/
def ScanOptions.drawsToEnd (options : ScanOptions) (source : List Row) : Nat :=
  windowDraws (options.stop.map Int.toNat) source.length

/-- The draws by which so many rows have been looked for. -/
def ScanOptions.drawsFor (options : ScanOptions) (source : List Row) : Nat → Nat
  | 0 => 0
  | n + 1 => ((options.positions source)[n]?.map (· + 1)).getD (options.drawsToEnd source)

/-- A row that is handed out has been drawn, and nothing after it. -/
theorem ScanOptions.drawsFor_found {options : ScanOptions} {source : List Row} {n : Nat}
    (h : n < (options.positions source).length) :
    (options.positions source)[n]?.map (· + 1) = some (options.drawsFor source (n + 1)) := by
  rw [drawsFor, List.getElem?_eq_getElem h]
  rfl

theorem ScanOptions.drawsFor_past (options : ScanOptions) (source : List Row) :
    options.drawsFor source ((options.positions source).length + 1) =
      options.drawsToEnd source := by
  rw [drawsFor, List.getElem?_eq_none (Nat.le_refl _)]
  rfl

theorem ScanOptions.mem_positions {options : ScanOptions} {source : List Row} {position : Nat}
    (h : position ∈ options.positions source) :
    position < source.length ∧ options.covers position = true := by
  obtain ⟨entry, hentry, rfl⟩ := List.mem_map.mp h
  obtain ⟨hwindow, -⟩ := List.mem_filter.mp hentry
  obtain ⟨hsource, hcovers⟩ := List.mem_filter.mp hwindow
  have hlt := List.snd_lt_of_mem_zipIdx hsource
  exact ⟨by simpa using hlt, hcovers⟩

/-- The end of the source is asked for once at most. -/
theorem ScanOptions.drawsFor_le_length (options : ScanOptions) (source : List Row) (n : Nat) :
    options.drawsFor source n ≤ source.length + 1 := by
  cases n with
  | zero => exact Nat.zero_le _
  | succ n =>
    rw [drawsFor]
    cases hp : (options.positions source)[n]? with
    | some position =>
      have hlt := (mem_positions (List.mem_of_getElem? hp)).1
      exact Nat.le_succ_of_le hlt
    | none =>
      simp only [Option.map_none, Option.getD_none, drawsToEnd, windowDraws]
      split
      · split <;> omega
      · exact Nat.le_refl _

/-- Nothing is drawn past the window. -/
theorem ScanOptions.drawsFor_le_stop {options : ScanOptions} {last : Nat}
    (h : options.stop = some (last : Int)) (source : List Row) (n : Nat) :
    options.drawsFor source n ≤ last + 1 := by
  cases n with
  | zero => exact Nat.zero_le _
  | succ n =>
    rw [drawsFor]
    cases hp : (options.positions source)[n]? with
    | some position =>
      have hcovers := (mem_positions (List.mem_of_getElem? hp)).2
      simp only [covers, h, Option.all_some, Bool.and_eq_true, decide_eq_true_eq] at hcovers
      have hle : position ≤ last := by omega
      exact Nat.succ_le_succ hle
    | none =>
      simp only [Option.map_none, Option.getD_none, drawsToEnd, windowDraws, h, Option.map_some,
        Int.toNat_natCast]
      split <;> omega

namespace ScanPlan

theorem drained_predicate (plan : ScanPlan) (drawn : Nat) (s : Script) :
    (Stack.script (plan.predicate.map Stage.filter).toList s).drained drawn = s.drained drawn := by
  cases plan.predicate with
  | none => rfl
  | some p => exact s.drained_filter p 0 0 drawn

theorem drained_projection (plan : ScanPlan) (drawn : Nat) (s : Script) :
    (Stack.script (plan.projection.map Stage.project).toList s).drained drawn =
      s.drained drawn := by
  cases plan.projection with
  | none => rfl
  | some columns => exact s.drained_project columns drawn

namespace Carries

variable {plan : ScanPlan} {options : ScanOptions}

theorem drained_script (h : plan.Carries options) (source : Feed) :
    (plan.script source).drained 0 = options.drawsToEnd source.rows := by
  have hstop : options.stop.map Int.toNat = plan.stop := by
    rw [← h.stop, Option.map_map]
    cases plan.stop <;> rfl
  have hdrained := @Script.drained_range_ofFeed plan.start plan.stop 0 source h.ordered
    fun _ _ => Nat.zero_le _
  rw [Nat.zero_add] at hdrained
  rw [script_eq, drained_projection, drained_predicate, hdrained, ScanOptions.drawsToEnd, hstop]

theorem draws_spent (h : plan.Carries options) (source : Feed) (n : Nat) :
    ((plan.script source).spent n).draws = options.drawsFor source.rows n := by
  cases n with
  | zero => rfl
  | succ n =>
    have hs := (plan.script source).draws_spent_succ 0 n
    rw [h.reached_script, h.drained_script, Nat.zero_add] at hs
    rw [hs, ScanOptions.drawsFor, ScanOptions.positions, List.getElem?_map, List.getElem?_map,
      Option.map_map, Option.map_map]
    rfl

/-- The draws of a run: those for the rows that were handed out, and for one more if the last call
looked for it in vain or only asked. -/
theorem draws_run (h : plan.Carries options) (source : Feed) (calls : List Request) :
    let past := RowStream.run calls (plan.stream source)
    let count := (handedOut past.answer).length
    count ≤ (options.positions source.rows).length ∧
      past.trace.draws = options.drawsFor source.rows (count + (lookedAhead past.answer).toNat) := by
  obtain ⟨hrows, htrace⟩ := plan.run_script source calls
  refine ⟨?_, ?_⟩
  · have hlength := congrArg List.length hrows
    rw [h.rows_script, List.length_take, ScanOptions.rows, List.length_map] at hlength
    rw [ScanOptions.positions, List.length_map]
    exact hlength ▸ Nat.min_le_right _ _
  · rw [htrace]
    exact h.draws_spent source _

theorem draws_take (h : plan.Carries options) (source : Feed) (n : Nat) :
    ((plan.stream source).take n).trace.draws = options.drawsFor source.rows n := by
  have htake := ((plan.stream_alike source).take n).trace
  have hscript := (Script.take_eq n (plan.script source)).2
  rw [← h.draws_spent, ← hscript, ← htake]
  rfl

end Carries

end ScanPlan

/-- A builder that fails does so whatever its source is. -/
theorem ScanBuilder.build_of_error {builder : ScanBuilder} {error : ScanError}
    (h : builder.build.result = .error error) (other : Feed) :
    { builder with source := other }.build = builder.build := by
  have hplan : builder.plan.result = .error error := by
    simp only [build] at h
    cases hp : builder.plan.result with
    | error e => rw [hp] at h; cases h; rfl
    | ok plan => rw [hp] at h; cases h
  have hother : { builder with source := other }.plan = builder.plan := rfl
  simp only [build, hother, hplan]
  rfl

/-- How often a source with these rows has been drawn from by a run of a scan that was answered so: not at
all, up to the row that was handed out last, up to the row that was looked for since, or until the end was
seen. -/
structure ScanOptions.Drawn (options : ScanOptions) (source : List Row) (answers : List Response)
    (draws : Nat) : Prop where
  /-- No more rows are handed out than were found. -/
  count_le : (handedOut answers).length ≤ (options.positions source).length
  of_uncalled : answers = [] → draws = 0
  of_handed : ∀ row, answers.getLast?.bind Response.handed? = some row →
    (options.positions source)[(handedOut answers).length - 1]?.map (· + 1) = some draws
  of_looked : lookedAhead answers = true →
    (handedOut answers).length < (options.positions source).length →
      (options.positions source)[(handedOut answers).length]?.map (· + 1) = some draws
  of_ended : lookedAhead answers = true →
    (handedOut answers).length = (options.positions source).length →
      draws = options.drawsToEnd source
  /-- Nothing past the window is drawn. -/
  le_stop : ∀ last ∈ options.stop, (draws : Int) ≤ last + 1
  /-- The end of the source is asked for once at most. -/
  le_length : draws ≤ source.length + 1

theorem ScanPlan.Carries.drawn {plan : ScanPlan} {options : ScanOptions} (h : plan.Carries options)
    (source : Feed) (calls : List Request) :
    let past := RowStream.run calls (plan.stream source)
    options.Drawn source.rows past.answer past.trace.draws := by
  intro past
  obtain ⟨hcount, hdraws⟩ := h.draws_run source calls
  exact {
    count_le := hcount
    of_uncalled := by
      intro hnone
      change (RowStream.run calls (plan.stream source)).answer = [] at hnone
      rw [hdraws, hnone]
      rfl
    of_handed := by
      intro row hrow
      obtain ⟨hlooked, hpos⟩ := of_last_handed hrow
      obtain ⟨number, hnumber⟩ := Nat.exists_eq_succ_of_ne_zero (Nat.ne_of_gt hpos)
      rw [hnumber] at hcount hdraws ⊢
      rw [hdraws, hlooked]
      exact ScanOptions.drawsFor_found hcount
    of_looked := by
      intro hlooked hlt
      rw [hdraws, hlooked]
      exact ScanOptions.drawsFor_found hlt
    of_ended := by
      intro hlooked heq
      rw [hdraws, hlooked, heq]
      exact ScanOptions.drawsFor_past _ _
    le_stop := by
      intro last hlast
      obtain ⟨bound, -, rfl⟩ := Option.map_eq_some_iff.mp (h.stop.trans hlast)
      have hle := ScanOptions.drawsFor_le_stop hlast source.rows
      rw [hdraws]
      exact Int.ofNat_le.mpr (hle _)
    le_length := by
      rw [hdraws]
      exact ScanOptions.drawsFor_le_length _ _ _ }

/-- After any calls on a built stream, its source has been drawn from just as often as the rows that were
handed out and looked for ask for. Taking rows draws nothing after the last of them, and a builder that
fails does so whatever its source is. -/
theorem ScanBuilder.build_draws {builder : ScanBuilder} {stream : RowStream}
    (h : builder.build.result = .ok stream) (calls : List Request) :
    let options := builder.options
    let source := builder.source.rows
    let positions := options.positions source
    let past := RowStream.run calls stream
    options.Drawn source past.answer past.trace.draws ∧
      (∀ number < positions.length,
        positions[number]?.map (· + 1) = some (stream.take (number + 1)).trace.draws) ∧
      ∀ (failing : ScanBuilder) (error : ScanError) (other : Feed),
        failing.build.result = .error error →
          { failing with source := other }.build = failing.build := by
  obtain ⟨plan, hplan, rfl⟩ := plan_of_build h
  have hc := ScanPlan.carries_of_check hplan
  refine ⟨hc.drawn builder.source calls, fun number hlt => ?_, fun failing error other => ?_⟩
  · rw [hc.draws_take]
    exact ScanOptions.drawsFor_found hlt
  · exact fun hfail => build_of_error hfail other

theorem ScanBuilder.build_draws_resuming :
    ∃ stream, resuming.build.result = .ok stream ∧
      (RowStream.run [.hasNext] stream).trace.draws = 3 ∧ (stream.take 1).trace.draws = 3 ∧
      (stream.take 2).trace.draws = 4 ∧
      (RowStream.run [.next, .hasNext, .nextRow, .hasNext] stream).trace.draws ≤ 5 := by
  obtain ⟨stream, h⟩ : ∃ stream, resuming.build.result = .ok stream := ⟨_, rfl⟩
  obtain ⟨hdrawn, htake, -⟩ := build_draws h [.hasNext]
  obtain ⟨hall, -⟩ := build_draws h [.next, .hasNext, .nextRow, .hasNext]
  have hlooked : some 3 = some (RowStream.run [.hasNext] stream).trace.draws :=
    hdrawn.of_looked rfl (show 0 < 2 by decide)
  have hfirst : some 3 = some (stream.take 1).trace.draws := htake 0 (by decide)
  have hsecond : some 4 = some (stream.take 2).trace.draws := htake 1 (by decide)
  exact ⟨stream, h, (Option.some.inj hlooked).symm, (Option.some.inj hfirst).symm,
    (Option.some.inj hsecond).symm, hall.le_length⟩

end TableScan
