import TableScan.Proofs.Pipeline
import TableScan.Proofs.Recorder.Stack
import TableScan.Proofs.Scan.Rows

/-!
What a scan logs. Over whole runs every stage of a stack is accounted for, whatever it stands on. Once a
built stream has found no more row, its log tells how far the source was consumed and, with a predicate,
how many rows of the window were examined and rejected.
-/

namespace TableScan

/-- The rows that are pulled through a window from so many rows by the time its end is seen. -/
def consumedBy (last : Option Nat) (count : Nat) : Nat :=
  last.elim count fun bound => min count (bound + 1)

theorem consumedBy_of_reached {last : Option Nat} {position : Nat}
    (h : ∀ bound ∈ last, position ≤ bound + 1) : consumedBy last position = position := by
  cases last with
  | none => rfl
  | some bound => exact Nat.min_eq_left (h bound rfl)

/-- More rows do not matter once the position is past the window. -/
theorem consumedBy_of_passed {last : Option Nat} {position : Nat}
    (h : ∀ bound ∈ last, position ≤ bound + 1) (hp : last.any (· < position) = true)
    (more : Nat) : consumedBy last (position + more) = position := by
  cases last with
  | none => cases hp
  | some bound =>
    have hb : bound < position := by simpa using hp
    have hposition : bound + 1 = position := Nat.le_antisymm hb (h bound rfl)
    rw [consumedBy, Option.elim_some, hposition]
    exact Nat.min_eq_right (Nat.le_add_right position more)

/-- A row at a position in the window is consumed. -/
theorem lt_consumedBy {last : Option Nat} {position : Nat}
    (hp : last.any (· < position) = false) (more : Nat) :
    position < consumedBy last (position + 1 + more) := by
  cases last with
  | none => exact Nat.le_add_right _ _
  | some bound =>
    have hb : position ≤ bound := by simpa using hp
    exact Nat.lt_min.mpr ⟨Nat.le_add_right _ _, Nat.lt_succ_of_le hb⟩

namespace Script

/-- What is logged until the end is seen. -/
def events : Script → List Event
  | stop trace => trace.events
  | found trace _ rest => trace.events ++ rest.events

@[simp] theorem events_after (before : Trace) (s : Script) :
    (s.after before).events = before.events ++ s.events := by
  cases s <;> simp [after, events]

/-- All that is done until the end is seen. -/
def total : Script → Trace
  | stop trace => trace
  | found trace _ rest => trace ++ rest.total

theorem events_total (s : Script) : s.total.events = s.events := by
  induction s with
  | stop trace => rfl
  | found trace row rest ih => exact congrArg (trace.events ++ ·) ih

theorem total_after (before : Trace) (s : Script) :
    (s.after before).total = before ++ s.total := by
  cases s with
  | stop trace => rfl
  | found trace row rest => exact Trace.append_assoc before trace rest.total

/-- Looking for more rows than there are sees the end. -/
theorem spent_eq_total {n : Nat} {s : Script} (h : s.rows.length < n) : s.spent n = s.total := by
  induction s generalizing n with
  | stop trace =>
    cases n with
    | zero => cases h
    | succ n => rfl
  | found trace row rest ih =>
    cases n with
    | zero => cases h
    | succ n => exact congrArg (trace ++ ·) (ih (Nat.lt_of_succ_lt_succ h))

theorem events_filter (p : Predicate) (examined rejected : Nat) (s : Script) :
    (s.filter p examined rejected).events =
      s.events ++ [.filterExhausted (examined + s.rows.length)
        (rejected + (s.rows.filter (!p.holds ·)).length)] := by
  induction s generalizing examined rejected with
  | stop trace => rfl
  | found trace row rest ih =>
    have hseen : (trace ++ .ofCalls (p.calls row)).events = trace.events := List.append_nil _
    have hlength : examined + (found trace row rest).rows.length =
        examined + 1 + rest.rows.length := by
      rw [rows, List.length_cons, Nat.add_assoc, Nat.add_comm 1]
    rw [filter, hlength]
    cases hrow : p.holds row with
    | true =>
      rw [if_pos rfl, events, events, ih, hseen, List.append_assoc, rows,
        List.filter_cons_of_neg (by rw [hrow]; decide)]
    | false =>
      rw [if_neg Bool.false_ne_true, events_after, events, ih, hseen, List.append_assoc, rows,
        List.filter_cons_of_pos (by rw [hrow]; rfl), List.length_cons, Nat.add_assoc rejected,
        Nat.add_comm 1]

theorem events_project (columns : List Nat) (s : Script) :
    (s.project columns).events = s.events := by
  induction s with
  | stop trace => rfl
  | found trace row rest ih => exact congrArg (trace.events ++ ·) ih

theorem range_stop (first : Nat) {last : Option Nat} {position : Nat}
    (hreached : ∀ bound ∈ last, position ≤ bound + 1) :
    let window := (stop (.ofDraws 1)).range first last position
    let consumed := consumedBy last position
    window.events = [.rangeExhausted consumed] ∧
      window.rows.length = consumed - max first position := by
  simp only [consumedBy_of_reached hreached, range, events, rows]
  refine ⟨?_, (Nat.sub_eq_zero_of_le (Nat.le_max_right _ _)).symm⟩
  split <;> rfl

/-- Over a source, a window is consumed up to its upper bound or up to the end of the source, logs so,
and has the rows from its lower bound on. -/
theorem range_ofFeed {first : Nat} {last : Option Nat} {position : Nat} (feed : Feed)
    (hordered : ∀ bound ∈ last, first ≤ bound) (hreached : ∀ bound ∈ last, position ≤ bound + 1) :
    let window := (ofFeed feed).range first last position
    let consumed := consumedBy last (position + feed.rows.length)
    window.events = [.rangeExhausted consumed] ∧
      window.rows.length = consumed - max first position := by
  induction feed generalizing position with
  | nil => exact range_stop first hreached
  | cons answer rest ih =>
    cases answer with
    | none => exact range_stop first hreached
    | some row =>
      have hlength : position + (row :: Feed.rows rest).length =
          position + 1 + (Feed.rows rest).length := by
        rw [List.length_cons]
        omega
      rw [ofFeed, range, Feed.rows]
      by_cases hp : position < first
      · obtain ⟨hevents, hrows⟩ := @ih (position + 1) fun bound hb => by
          have hf := hordered bound hb
          omega
        rw [if_pos hp, hlength]
        dsimp only
        rw [events_after, rows_after, hevents, hrows]
        exact ⟨rfl, by omega⟩
      · rw [if_neg hp]
        by_cases ht : last.any (· < position) = true
        · rw [if_pos ht, consumedBy_of_passed hreached ht]
          exact ⟨rfl, (Nat.sub_eq_zero_of_le (Nat.le_max_right _ _)).symm⟩
        · obtain ⟨hevents, hrows⟩ := @ih (position + 1) fun bound hb => by
            cases hb
            have hb : ¬bound < position := by simpa using ht
            omega
          have hlt := lt_consumedBy (Bool.eq_false_iff.mpr ht) (Feed.rows rest).length
          rw [if_neg ht, hlength]
          refine ⟨hevents, ?_⟩
          rw [rows, List.length_cons, hrows]
          omega

end Script

/-- Whether a call is answered that there is no more row. -/
def Response.refuses : Response → Bool
  | promise more => !more
  | row answer => answer.toOption.isNone
  | item found => found.isNone

/-- A call finds no more row only once all rows have been handed out. -/
theorem Request.refuses_expected {call : Request} {rows : List Row} {count : Nat}
    (h : (call.expected rows count).refuses = true) :
    rows.length ≤ count ∧ (call.expected rows count).handed? = none := by
  cases call with
  | hasNext => exact ⟨by simpa [expected, Response.refuses] using h, rfl⟩
  | nextRow =>
    cases hrow : rows[count]? with
    | some row =>
      rw [expected, hrow] at h
      cases h
    | none =>
      rw [expected, hrow]
      exact ⟨List.getElem?_eq_none_iff.mp hrow, rfl⟩
  | next =>
    cases hrow : rows[count]? with
    | some row =>
      rw [expected, hrow] at h
      cases h
    | none =>
      rw [expected, hrow]
      exact ⟨List.getElem?_eq_none_iff.mp hrow, rfl⟩

namespace ScanPlan

variable {plan : ScanPlan}

/-- A projection changes neither what is logged nor how many rows there are. -/
theorem ends_projection (plan : ScanPlan) (s : Script) :
    let projected := Stack.script (plan.projection.map Stage.project).toList s
    projected.events = s.events ∧ projected.rows.length = s.rows.length := by
  cases plan.projection with
  | none => exact ⟨rfl, rfl⟩
  | some columns =>
    refine ⟨s.events_project columns, ?_⟩
    exact (congrArg List.length (s.rows_project columns)).trans (List.length_map _)

/-- What a plan logs over a source until the end is seen. -/
theorem events_script (hordered : ∀ last ∈ plan.stop, plan.start ≤ last) (source : Feed) :
    let consumed := consumedBy plan.stop source.rows.length
    let examined := consumed - plan.start
    (plan.script source).events = .rangeExhausted consumed ::
      (plan.predicate.map fun _ =>
        .filterExhausted examined (examined - (plan.script source).rows.length)).toList := by
  intro consumed examined
  obtain ⟨hevents, hrows⟩ := @Script.range_ofFeed plan.start plan.stop 0 source hordered
    fun _ _ => Nat.zero_le _
  rw [Nat.zero_add] at hevents hrows
  rw [Nat.max_zero] at hrows
  rw [script_eq]
  generalize (Script.ofFeed source).range plan.start plan.stop 0 = window at hevents hrows ⊢
  obtain ⟨hprojected, hlength⟩ := plan.ends_projection
    (Stack.script (plan.predicate.map Stage.filter).toList window)
  rw [hprojected, hlength]
  cases plan.predicate with
  | none => exact hevents
  | some p =>
    have hfilter : (window.filter p 0 0).events = _ := window.events_filter p 0 0
    have hkept : (window.filter p 0 0).rows = _ := window.rows_filter p 0 0
    have hsplit := List.length_eq_length_filter_add (l := window.rows) p.holds
    have hrejected : (window.rows.filter (!p.holds ·)).length =
        examined - (window.rows.filter p.holds).length := by omega
    rw [hevents, Nat.zero_add, Nat.zero_add, hrows, hrejected] at hfilter
    rw [← hkept] at hfilter
    exact hfilter

/-- A run whose last call found no more row has handed out all rows, and the end has been seen. -/
theorem Carries.drained_total {options : ScanOptions} (h : plan.Carries options) (source : Feed)
    {calls : List Request}
    (hrefused : (RowStream.run calls (plan.stream source)).answer.getLast?.any Response.refuses =
      true) :
    let past := RowStream.run calls (plan.stream source)
    handedOut past.answer = options.rows source.rows ∧
      past.trace = (plan.script source).total := by
  cases calls using List.reverseRecOn with
  | nil => cases hrefused
  | append_singleton calls call =>
    obtain ⟨hrows, hanswer⟩ := h.serves source calls call
    obtain ⟨-, htrace⟩ := plan.run_script source (calls ++ [call])
    simp only [RowStream.run, runWith_concat, List.getLast?_concat, Option.any_some,
      handedOut_concat, lookedAhead_concat] at hrefused htrace ⊢
    rw [hanswer] at hrefused htrace ⊢
    obtain ⟨hall, hnone⟩ := Request.refuses_expected hrefused
    rw [List.take_of_length_le hall] at hrows
    rw [hnone, Option.toList_none, List.append_nil] at htrace ⊢
    refine ⟨hrows, ?_⟩
    rw [htrace, Script.spent_eq_total]
    rw [h.rows_script]
    exact Nat.lt_succ_of_le hall

/-- Such a run has logged the end of every stage. -/
theorem Carries.drained_run {options : ScanOptions} (h : plan.Carries options) (source : Feed)
    {calls : List Request}
    (hrefused : (RowStream.run calls (plan.stream source)).answer.getLast?.any Response.refuses =
      true) :
    let past := RowStream.run calls (plan.stream source)
    handedOut past.answer = options.rows source.rows ∧
      past.trace.events = (plan.script source).events := by
  obtain ⟨hrows, htrace⟩ := h.drained_total source hrefused
  exact ⟨hrows, (congrArg Trace.events htrace).trans (Script.events_total _)⟩

end ScanPlan

theorem Cursor.left_next {σ : Type} (c : Cursor σ) (s : σ) :
    c.left (c.next s).state + (c.next s).answer.toList.length ≤ c.left s := by
  have hlook := c.left_hasNext s
  have hdrawn := c.left_nextRow (c.hasNext s).state
  rw [rowsIn_eq] at hdrawn
  rw [next]
  split
  · exact Nat.le_trans hdrawn hlook
  · exact hlook

/-- No more rows are taken than can be left. -/
theorem Cursor.length_take_le {σ : Type} (c : Cursor σ) (n : Nat) (s : σ) :
    (c.take n s).answer.length ≤ c.left s := by
  induction n generalizing s with
  | zero => exact Nat.zero_le _
  | succ n ih =>
    have hfirst := c.left_next s
    rw [take]
    split
    · rename_i row hrow
      rw [hrow] at hfirst
      exact Nat.le_trans (Nat.succ_le_succ (ih (c.next s).state)) hfirst
    · exact Nat.zero_le _

namespace ScanPlan

/-- Collecting all rows sees the end. -/
theorem Carries.collect_total {plan : ScanPlan} {options : ScanOptions} (h : plan.Carries options)
    (source : Feed) :
    let past := (plan.stream source).collect
    past.answer = options.rows source.rows ∧ past.trace = (plan.script source).total := by
  let stream := plan.stream source
  let count := stream.cursor.left stream.state + 1
  have hleft := stream.cursor.length_take_le count stream.state
  have htake := (plan.stream_alike source).take count
  obtain ⟨hrows, htrace⟩ := Script.take_eq count (plan.script source)
  rw [htake.answer, hrows, List.length_take] at hleft
  have hlength : (plan.script source).rows.length < count := by omega
  rw [List.take_of_length_le (Nat.le_of_lt hlength), h.rows_script] at hrows
  rw [Script.spent_eq_total hlength, ← htake.trace] at htrace
  exact ⟨htake.answer.trans hrows, htrace⟩

/-- Collecting all rows logs the end of every stage. -/
theorem Carries.collect_eq {plan : ScanPlan} {options : ScanOptions} (h : plan.Carries options)
    (source : Feed) :
    let past := (plan.stream source).collect
    past.answer = options.rows source.rows ∧ past.trace.events = (plan.script source).events := by
  obtain ⟨hrows, htrace⟩ := h.collect_total source
  exact ⟨hrows, (congrArg Trace.events htrace).trans (Script.events_total _)⟩

end ScanPlan

/-- Accounts are conserved over whole runs. After any calls on a stack of stages over any base, which
may fail, taking records has changed nothing, and every stage is accounted for: a range by the rows that
it pulled and those that it handed out, a filter by the rows that it examined, rejected, handed out and
keeps, both by the one event that they log, in the call that first finds no row, and after which they
stay as they are and call nothing below. When a call on a built stream has found no more row, or all
rows have been collected, the log tells first how far the range consumed the source, and then, with a
predicate, how many rows of the window were examined and rejected. -/
theorem ScanBuilder.accounts_conserved :
    (∀ {σ : Type} (base : Cursor σ) (s : σ) (stages : List Stage) (calls : List Request),
      let past := (Stack.recorded base stages).run calls (Stack.recordedStart s stages)
      (Stack.cursor base stages).run calls (Stack.start s stages) =
          ⟨past.answer, Stack.plain id stages past.state, past.trace⟩ ∧
        handedOut past.answer = Stack.handed stages past.state ∧
        Stack.Accounts base stages past.state) ∧
    ∀ {builder : ScanBuilder} {stream : RowStream}, builder.build.result = .ok stream →
      let options := builder.options
      let rows := options.rows builder.source.rows
      let start := (options.start.getD 0).toNat
      let consumed := options.stop.elim builder.source.rows.length fun stop =>
        min builder.source.rows.length (stop.toNat + 1)
      let examined := consumed - min start consumed
      let ends := .rangeExhausted consumed ::
        (options.predicate.map fun _ => .filterExhausted examined (examined - rows.length)).toList
      (∀ calls : List Request,
        let past := RowStream.run calls stream
        past.answer.getLast?.any Response.refuses = true →
          handedOut past.answer = rows ∧ past.trace.events = ends) ∧
      stream.collect.answer = rows ∧ stream.collect.trace.events = ends := by
  refine ⟨fun base s stages calls => Stack.accounts_run base s stages calls, ?_⟩
  intro builder stream h options rows start consumed examined ends
  obtain ⟨plan, hplan, rfl⟩ := plan_of_build h
  have hc := ScanPlan.carries_of_check hplan
  have hstart : start = plan.start := congrArg Int.toNat hc.start.symm
  have hconsumed : consumedBy plan.stop builder.source.rows.length = consumed := by
    change _ = Option.elim builder.options.stop _ _
    rw [← hc.stop]
    cases plan.stop <;> rfl
  have hexamined : consumed - plan.start = examined := by
    rw [← hstart]
    omega
  have hends : (plan.script builder.source).events = ends := by
    rw [ScanPlan.events_script hc.ordered, hc.rows_script, hc.predicate, hconsumed, hexamined]
  constructor
  · intro calls past hrefused
    obtain ⟨hrows, hevents⟩ := hc.drained_run builder.source hrefused
    exact ⟨hrows, hevents.trans hends⟩
  · obtain ⟨hrows, hevents⟩ := hc.collect_eq builder.source
    exact ⟨hrows, hevents.trans hends⟩

/-- Of the four rows of the source one lies before the window and one is rejected. -/
theorem ScanBuilder.accounts_conserved_resuming :
    ∃ stream, resuming.build.result = .ok stream ∧
      (RowStream.run [.next, .nextRow, .hasNext] stream).trace.events =
        [.rangeExhausted 4, .filterExhausted 3 1] ∧
      stream.collect.trace.events = [.rangeExhausted 4, .filterExhausted 3 1] := by
  let plan : ScanPlan := ⟨1, some 4, resuming.options.predicate, some [1, 0],
    ⟨[⟨"label", .utf8⟩, ⟨"size", .int32⟩]⟩⟩
  have h : resuming.build.result = .ok (plan.stream resuming.source) := rfl
  obtain ⟨hruns, -, hcollect⟩ := accounts_conserved.2 h
  have hrefused : (RowStream.run [.next, .nextRow, .hasNext]
      (plan.stream resuming.source)).answer.getLast?.any Response.refuses = true := by
    decide +kernel
  exact ⟨plan.stream resuming.source, h, (hruns _ hrefused).2, hcollect⟩

end TableScan
