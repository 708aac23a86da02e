import TableScan.Proofs.Plan
import TableScan.Proofs.Script.Reach

/-!
The rows of a scan, said of the options alone: the source rows whose positions lie in the window and
which the predicate accepts, each with the projected columns. A stream that was built hands out these
rows and no others, however it is called.
-/

namespace TableScan

namespace ScanOptions

/-- Whether a source position lies in the window. -/
def covers (options : ScanOptions) (position : Nat) : Bool :=
  options.start.all (· ≤ (position : Int)) && options.stop.all ((position : Int) ≤ ·)

/-- Whether a row satisfies the predicate, if there is one. -/
def accepts (options : ScanOptions) (row : Row) : Bool := options.predicate.all (·.holds row)

/-- The accepted rows of the window with their source positions. -/
def selected (options : ScanOptions) (source : List Row) : List (Row × Nat) :=
  (source.zipIdx.filter fun entry => options.covers entry.2).filter fun entry =>
    options.accepts entry.1

/-- The row as it is handed out: as it is, or with the cells at the projected positions, missing where
the row has none. -/
def shown (options : ScanOptions) (row : Row) : Row :=
  match options.projection with
  | none => row
  | some columns => ⟨row.key, (columns.map Int.toNat).map fun i => row.cells[i]?.getD .null⟩

def rows (options : ScanOptions) (source : List Row) : List Row :=
  (options.selected source).map fun entry => options.shown entry.1

end ScanOptions

namespace ScanPlan.Carries

variable {plan : ScanPlan} {options : ScanOptions}

theorem inWindow_eq (h : plan.Carries options) (position : Nat) :
    inWindow plan.start plan.stop position = options.covers position := by
  have hstart : decide (plan.start ≤ position) = options.start.all (· ≤ (position : Int)) := by
    have hs := h.start
    cases ho : options.start with
    | none => simp_all
    | some first => simp_all [← Int.ofNat_le]
  have hstop : plan.stop.all (position ≤ ·) = options.stop.all ((position : Int) ≤ ·) := by
    rw [← h.stop]
    cases plan.stop <;> simp
  rw [inWindow, ScanOptions.covers, hstart, hstop]

theorem reached_predicate (h : plan.Carries options) (drawn : Nat) (s : Script) :
    (Stack.script (plan.predicate.map Stage.filter).toList s).reached drawn =
      (s.reached drawn).filter fun entry => options.accepts entry.1 := by
  rw [h.predicate]
  cases ho : options.predicate with
  | none =>
    have hall : ∀ entry ∈ s.reached drawn, options.accepts entry.1 = true := fun entry _ => by
      rw [ScanOptions.accepts, ho]
      rfl
    exact (List.filter_eq_self.mpr hall).symm
  | some p =>
    simp only [ScanOptions.accepts, ho]
    exact s.reached_filter p 0 0 drawn

theorem reached_projection (h : plan.Carries options) (drawn : Nat) (s : Script) :
    (Stack.script (plan.projection.map Stage.project).toList s).reached drawn =
      (s.reached drawn).map fun entry => (options.shown entry.1, entry.2) := by
  have hp := h.projection
  cases hc : plan.projection with
  | none =>
    have ho : options.projection = none := by rw [← hp, hc]; rfl
    have hid : ∀ entry : Row × Nat, (options.shown entry.1, entry.2) = entry := fun entry => by
      rw [ScanOptions.shown, ho]
    exact (List.map_id'' hid _).symm
  | some columns =>
    have ho : options.projection = some (columns.map Int.ofNat) := by rw [← hp, hc]; rfl
    have hcast : (columns.map Int.ofNat).map Int.toNat = columns := by
      rw [List.map_map]
      exact List.map_id'' (fun _ => rfl) columns
    simp only [ScanOptions.shown, ho, hcast]
    exact s.reached_project columns drawn

/-- The rows that lie in the window, each drawn right after the ones before it. -/
theorem reached_window (h : plan.Carries options) (source : Feed) :
    ((Script.ofFeed source).range plan.start plan.stop 0).reached 0 =
      (source.rows.zipIdx.filter fun entry => options.covers entry.2).map fun entry =>
        (entry.1, entry.2 + 1) := by
  have hz : (source.rows.zipIdx 1).zipIdx = source.rows.zipIdx.map fun entry =>
      ((entry.1, entry.2 + 1), entry.2) :=
    List.ext_getElem? fun i => by simp [Nat.add_comm 1, Function.comp_def]
  rw [Script.reached_range, Script.reached_ofFeed, hz, List.filter_map, List.map_map]
  simp only [h.inWindow_eq]
  rfl

end ScanPlan.Carries

namespace ScanPlan

/-- What the plan does over a source, written down in advance. -/
def script (plan : ScanPlan) (source : Feed) : Script :=
  Stack.script plan.stages (.ofFeed source)

theorem script_eq (plan : ScanPlan) (source : Feed) :
    plan.script source =
      Stack.script (plan.projection.map Stage.project).toList
        (Stack.script (plan.predicate.map Stage.filter).toList
          ((Script.ofFeed source).range plan.start plan.stop 0)) :=
  List.foldl_append

theorem stream_alike (plan : ScanPlan) (source : Feed) :
    (plan.stream source).cursor.Alike (plan.stream source).state Script.cursor
      (plan.script source) :=
  Stack.script_alike (Lookahead.start_alike source) plan.stages

/-- What a run hands out and leaves behind can be read off the script. -/
theorem run_script (plan : ScanPlan) (source : Feed) (calls : List Request) :
    let past := RowStream.run calls (plan.stream source)
    let count := (handedOut past.answer).length
    handedOut past.answer = (plan.script source).rows.take count ∧
      past.trace = (plan.script source).spent (count + (lookedAhead past.answer).toNat) := by
  have hrun := (plan.stream_alike source).run calls
  obtain ⟨hrows, -, htrace⟩ := Script.run_eq (plan.script source) calls
  rw [← hrun.trace] at htrace
  rw [← hrun.answer] at hrows htrace
  simp only [RowStream.run_eq, RowStream.advance]
  exact ⟨hrows, htrace⟩

end ScanPlan

namespace ScanPlan.Carries

variable {plan : ScanPlan} {options : ScanOptions}

/-- The plan finds the selected rows, each by the draws up to its position. -/
theorem reached_script (h : plan.Carries options) (source : Feed) :
    (plan.script source).reached 0 =
      (options.selected source.rows).map fun entry => (options.shown entry.1, entry.2 + 1) := by
  rw [script_eq, h.reached_projection, h.reached_predicate, h.reached_window, List.filter_map,
    List.map_map]
  rfl

theorem rows_script (h : plan.Carries options) (source : Feed) :
    (plan.script source).rows = options.rows source.rows := by
  rw [Script.rows_eq_reached 0, h.reached_script, List.map_map]
  rfl

end ScanPlan.Carries

/-- A stream serves what its cursor serves. -/
theorem RowStream.serves {stream : RowStream} {rows : List Row}
    (h : Serves stream.cursor.ask stream.state rows) : Serves RowStream.ask stream rows := by
  intro calls call
  have hr : runWith RowStream.ask calls stream = _ := stream.run_eq calls
  simp only [hr, RowStream.ask_eq]
  exact h calls call

theorem ScanPlan.Carries.serves {plan : ScanPlan} {options : ScanOptions} (h : plan.Carries options)
    (source : Feed) : Serves RowStream.ask (plan.stream source) (options.rows source.rows) := by
  rw [← h.rows_script]
  exact RowStream.serves ((plan.stream_alike source).serves (Script.serves _))

/-- A built stream hands out the rows that the options select from the rows of its source. After any
calls, each kind of call is answered by the row that comes next. -/
theorem ScanBuilder.build_hands_out {builder : ScanBuilder} {stream : RowStream}
    (h : builder.build.result = .ok stream) (calls : List Request) :
    let rows := builder.options.rows builder.source.rows
    let past := RowStream.run calls stream
    let count := (handedOut past.answer).length
    handedOut past.answer = rows.take count ∧
      past.state.hasNext.answer = decide (count < rows.length) ∧
      past.state.nextRow.answer = rows[count]?.elim (.error .noSuchElement) .ok ∧
      past.state.next.answer = rows[count]? := by
  obtain ⟨plan, hplan, rfl⟩ := plan_of_build h
  have hs := (ScanPlan.carries_of_check hplan).serves builder.source calls
  obtain ⟨hrows, hlook⟩ := hs .hasNext
  obtain ⟨-, hrequest⟩ := hs .nextRow
  obtain ⟨-, hitem⟩ := hs .next
  exact ⟨hrows, Response.promise.inj hlook, Response.row.inj hrequest, Response.item.inj hitem⟩

/-- A scan of a source that goes on after its end. -/
def ScanBuilder.resuming : ScanBuilder where
  schema := ⟨[⟨"size", .int32⟩, ⟨"label", .utf8⟩]⟩
  source := [some ⟨"a", [.int32 9, .utf8 "u"]⟩, some ⟨"b", [.int32 5, .null]⟩,
    some ⟨"c", [.int32 7, .utf8 "v"]⟩, some ⟨"d", [.int32 9, .utf8 "w"]⟩, none,
    some ⟨"e", [.int32 8, .null]⟩]
  options := ⟨some 1, some 4, some (.comparison ⟨0, .int32⟩ .gt (.int32 6)), some [1, 0]⟩

theorem ScanBuilder.build_hands_out_resuming :
    ∃ stream, resuming.build.result = .ok stream ∧
      stream.next.answer = some ⟨"c", [.utf8 "v", .int32 7]⟩ ∧
      let past := RowStream.run [.hasNext, .next, .nextRow] stream
      past.state.hasNext.answer = decide ((handedOut past.answer).length < 2) := by
  obtain ⟨stream, h⟩ : ∃ stream, resuming.build.result = .ok stream := ⟨_, rfl⟩
  refine ⟨stream, h, ?_, ?_⟩
  · exact (build_hands_out h []).2.2.2
  · exact (build_hands_out h [.hasNext, .next, .nextRow]).2.1

end TableScan
