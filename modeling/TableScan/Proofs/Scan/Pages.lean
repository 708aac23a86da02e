import TableScan.Proofs.Scan.Calls
import TableScan.Proofs.Scan.Ends

/-!
Reading a scan page by page. A window is cut at positions of the source: each page ends right before a
cut and the next one starts at it. Every page is a scan of its own over the whole source, which draws
and skips the rows of the pages before it without evaluating them. One after the other the pages hand
out the rows of the single scan, and make its calls.
-/

namespace TableScan

/-! ## The calls of a scan that is over -/

namespace Script

variable {s : Script}

theorem calls_ofFeed (feed : Feed) : (ofFeed feed).total.calls = [] := by
  induction feed with
  | nil => rfl
  | cons answer rest ih =>
    cases answer with
    | none => rfl
    | some row => exact ih

/-- A range makes no calls of its own. -/
theorem calls_range (h : s.total.calls = []) (first : Nat) (last : Option Nat) (position : Nat) :
    (s.range first last position).total.calls = [] := by
  induction s generalizing position with
  | stop trace =>
    have htrace : trace.calls = [] := h
    unfold range
    split
    · rfl
    · exact (List.append_nil _).trans htrace
  | found trace row rest ih =>
    obtain ⟨htrace, hrest⟩ := List.append_eq_nil_iff.mp h
    have hmore := ih hrest (position + 1)
    unfold range
    split
    · rw [total_after, Trace.calls_append, htrace, hmore]
      rfl
    · split
      · rfl
      · rw [total, Trace.calls_append, htrace, hmore]
        rfl

/-- A filter evaluates every row that comes to it, whether it keeps the row or not. -/
theorem calls_filter (h : s.total.calls = []) (p : Predicate) (examined rejected : Nat) :
    (s.filter p examined rejected).total.calls = s.rows.flatMap p.calls := by
  induction s generalizing examined rejected with
  | stop trace => exact (List.append_nil _).trans h
  | found trace row rest ih =>
    obtain ⟨htrace, hrest⟩ := List.append_eq_nil_iff.mp h
    have hseen : (trace ++ .ofCalls (p.calls row)).calls = p.calls row := by
      rw [Trace.calls_append, htrace]
      rfl
    unfold filter
    dsimp only
    split
    · rw [total, Trace.calls_append, hseen, ih hrest, rows, List.flatMap_cons]
    · rw [total_after, Trace.calls_append, hseen, ih hrest, rows, List.flatMap_cons]

theorem total_project (columns : List Nat) (s : Script) : (s.project columns).total = s.total := by
  induction s with
  | stop trace => rfl
  | found trace row rest ih => exact congrArg (trace ++ ·) ih

end Script

namespace ScanOptions

/-- The source rows whose positions lie in the window. -/
def window (options : ScanOptions) (source : List Row) : List Row :=
  (source.zipIdx.filter fun entry => options.covers entry.2).map Prod.fst

/-- The calls of one evaluation of the predicate, if there is one. -/
def calls (options : ScanOptions) (row : Row) : List Call := options.predicate.elim [] (·.calls row)

theorem rows_eq_window (options : ScanOptions) (source : List Row) :
    options.rows source = ((options.window source).filter options.accepts).map options.shown := by
  rw [rows, selected, window, List.filter_map, List.map_map]
  rfl

end ScanOptions

/-- In whatever way the stream is used up, it hands out these rows and makes these calls: by a run of
which the last call finds no more row, or by collecting the rows. -/
structure RowStream.Yields (stream : RowStream) (rows : List Row) (calls : List Call) : Prop where
  run : ∀ requests : List Request,
    (RowStream.run requests stream).answer.getLast?.any Response.refuses = true →
      handedOut (RowStream.run requests stream).answer = rows ∧
        (RowStream.run requests stream).trace.calls = calls
  collect : stream.collect.answer = rows ∧ stream.collect.trace.calls = calls

namespace ScanPlan.Carries

variable {plan : ScanPlan} {options : ScanOptions}

/-- A scan that is over has evaluated the rows of its window once each. -/
theorem calls_script (h : plan.Carries options) (source : Feed) :
    (plan.script source).total.calls = (options.window source.rows).flatMap options.calls := by
  have hwindow : ((Script.ofFeed source).range plan.start plan.stop 0).rows =
      options.window source.rows := by
    rw [Script.rows_range, Script.rows_ofFeed, ScanOptions.window]
    simp only [h.inWindow_eq]
  have hquiet := Script.calls_range (Script.calls_ofFeed source) plan.start plan.stop 0
  have htotal : (plan.script source).total =
      (Stack.script (plan.predicate.map Stage.filter).toList
        ((Script.ofFeed source).range plan.start plan.stop 0)).total := by
    rw [script_eq]
    cases plan.projection with
    | none => rfl
    | some columns => exact Script.total_project columns _
  rw [htotal, ← hwindow, h.predicate]
  unfold ScanOptions.calls
  cases options.predicate with
  | none => exact hquiet.trans (List.flatMap_eq_nil_iff.mpr fun _ _ => rfl).symm
  | some p => exact Script.calls_filter hquiet p 0 0

theorem yields (h : plan.Carries options) (source : Feed) :
    (plan.stream source).Yields (options.rows source.rows)
      ((options.window source.rows).flatMap options.calls) where
  run requests hrefused := by
    obtain ⟨hrows, htrace⟩ := h.drained_total source hrefused
    exact ⟨hrows, (congrArg Trace.calls htrace).trans (h.calls_script source)⟩
  collect := by
    obtain ⟨hrows, htrace⟩ := h.collect_total source
    exact ⟨hrows, (congrArg Trace.calls htrace).trans (h.calls_script source)⟩

end ScanPlan.Carries

/-- Options that ask only for what there is can be built, whatever the source is. -/
theorem ScanBuilder.build_of_wellFormed {builder : ScanBuilder}
    (h : builder.options.WellFormed builder.schema) :
    builder.build.result =
      .ok ((builder.options.planned builder.schema).stream builder.source) := by
  have hplan := (ScanPlan.checks_check builder.schema builder.options).ok h
  simp only [build, ScanBuilder.plan, ScanPlan.validate, hplan]
  rfl

/-! ## Pages -/

namespace ScanOptions

/-- The options of the pages of a window. The last page ends where the window does. -/
def pages (options : ScanOptions) : List Nat → List ScanOptions
  | [] => [options]
  | cut :: cuts => options.rowsTo (cut - 1) :: (options.rowsFrom cut).pages cuts

/-- Positions at which a window can be cut: they increase, and none is before the second position of
the window or past its end. -/
structure Cuts (options : ScanOptions) (cuts : List Nat) : Prop where
  increasing : cuts.Pairwise (· < ·)
  start : ∀ cut ∈ cuts, options.start.getD 0 < (cut : Int)
  stop : ∀ last ∈ options.stop, ∀ cut ∈ cuts, (cut : Int) ≤ last

variable {options : ScanOptions} {cut : Nat} {cuts : List Nat} {schema : Schema}

/-- What is left of the window after its first page can be cut at the other positions. -/
theorem Cuts.tail (h : options.Cuts (cut :: cuts)) : (options.rowsFrom cut).Cuts cuts where
  increasing := (List.pairwise_cons.mp h.increasing).2
  start next hnext := Int.ofNat_lt.mpr ((List.pairwise_cons.mp h.increasing).1 next hnext)
  stop last hlast next hnext := h.stop last hlast next (List.mem_cons_of_mem cut hnext)

theorem Cuts.covers_first (h : options.Cuts (cut :: cuts)) (position : Nat) :
    (options.rowsTo (cut - 1)).covers position =
      (options.covers position && decide (position < cut)) := by
  have hlast : ∀ last ∈ options.stop, position < cut → (position : Int) ≤ last := by
    intro last hlast hlt
    have hle := h.stop last hlast cut List.mem_cons_self
    omega
  have hfirst : decide ((position : Int) ≤ cut - 1) = decide (position < cut) := by
    rw [decide_eq_decide]
    omega
  rw [covers, covers, rowsTo, Option.all_some, hfirst, Bool.and_assoc]
  congr 1
  by_cases hlt : position < cut
  · cases hstop : options.stop with
    | none => simp
    | some last => simp [hlt, hlast last hstop hlt]
  · simp [hlt]

theorem Cuts.covers_rest (h : options.Cuts (cut :: cuts)) (position : Nat) :
    (options.rowsFrom cut).covers position =
      (options.covers position && decide (cut ≤ position)) := by
  have hstart := h.start cut List.mem_cons_self
  have hfirst : ∀ first ∈ options.start, cut ≤ position → first ≤ (position : Int) := by
    intro first hf hle
    rw [Option.mem_def.mp hf, Option.getD_some] at hstart
    omega
  rw [covers, covers, rowsFrom, Option.all_some, Bool.and_right_comm]
  congr 1
  by_cases hle : cut ≤ position
  · cases hs : options.start with
    | none => simp
    | some first => simp [hle, hfirst first hs hle]
  · simp [hle]

end ScanOptions

/-- Keeping the entries before a position and then those from it on keeps all of them in order. -/
theorem filter_zipIdx_split {α : Type} (keep : Nat → Bool) (cut : Nat) (items : List α) :
    (items.zipIdx.filter fun entry => keep entry.2 && decide (entry.2 < cut)) ++
        (items.zipIdx.filter fun entry => keep entry.2 && decide (cut ≤ entry.2)) =
      items.zipIdx.filter fun entry => keep entry.2 := by
  have hbefore : ∀ entry ∈ items.zipIdx.take cut, entry.2 < cut := by
    intro entry he
    obtain ⟨i, hi, rfl⟩ := List.mem_take_iff_getElem.mp he
    simp only [List.getElem_zipIdx]
    omega
  have hafter : ∀ entry ∈ items.zipIdx.drop cut, cut ≤ entry.2 := by
    intro entry he
    obtain ⟨i, hi, rfl⟩ := List.mem_drop_iff_getElem.mp he
    simp only [List.getElem_zipIdx]
    omega
  rw [← List.take_append_drop cut items.zipIdx]
  generalize items.zipIdx.take cut = before at hbefore ⊢
  generalize items.zipIdx.drop cut = after at hafter ⊢
  have hfirst : (before ++ after).filter (fun entry => keep entry.2 && decide (entry.2 < cut)) =
      before.filter fun entry => keep entry.2 := by
    have hnone : after.filter (fun entry => keep entry.2 && decide (entry.2 < cut)) = [] := by
      refine List.filter_eq_nil_iff.mpr fun entry he => ?_
      simp [hafter entry he]
    rw [List.filter_append, hnone, List.append_nil]
    exact List.filter_congr fun entry he => by simp [hbefore entry he]
  have hrest : (before ++ after).filter (fun entry => keep entry.2 && decide (cut ≤ entry.2)) =
      after.filter fun entry => keep entry.2 := by
    have hnone : before.filter (fun entry => keep entry.2 && decide (cut ≤ entry.2)) = [] := by
      refine List.filter_eq_nil_iff.mpr fun entry he => ?_
      simp [hbefore entry he]
    rw [List.filter_append, hnone, List.nil_append]
    exact List.filter_congr fun entry he => by simp [hafter entry he]
  rw [hfirst, hrest, List.filter_append]

namespace ScanOptions

variable {options : ScanOptions} {cut : Nat} {cuts : List Nat} {schema : Schema}

theorem Cuts.window_split (h : options.Cuts (cut :: cuts)) (source : List Row) :
    (options.rowsTo (cut - 1)).window source ++ (options.rowsFrom cut).window source =
      options.window source := by
  simp only [window, h.covers_first, h.covers_rest]
  rw [← List.map_append, filter_zipIdx_split]

/-- The windows of the pages make up the window; the induction is on the cuts. -/
theorem Cuts.window_pages (h : options.Cuts cuts) (source : List Row) :
    (options.pages cuts).flatMap (·.window source) = options.window source := by
  induction cuts generalizing options with
  | nil => exact List.append_nil _
  | cons cut cuts ih => rw [pages, List.flatMap_cons, ih h.tail, h.window_split]

/-- The pages ask for the predicate and the columns that the whole scan asks for. -/
theorem of_mem_pages {page : ScanOptions} (h : page ∈ options.pages cuts) :
    page.predicate = options.predicate ∧ page.projection = options.projection := by
  induction cuts generalizing options with
  | nil =>
    obtain rfl := List.mem_singleton.mp h
    exact ⟨rfl, rfl⟩
  | cons cut cuts ih =>
    rcases List.mem_cons.mp h with rfl | hrest
    · exact ⟨rfl, rfl⟩
    · have hpage := ih hrest
      exact hpage

/-- The first page ends before the cut, which is past the start of the window. -/
theorem Cuts.window_first (h : options.Cuts (cut :: cuts)) (hwindow : options.Window) :
    (options.rowsTo (cut - 1)).Window where
  start := hwindow.start
  stop last hlast := by
    cases hlast
    cases hs : options.start with
    | none =>
      have hpos := h.start cut List.mem_cons_self
      rw [hs, Option.getD_none] at hpos
      omega
    | some first =>
      have hpos := h.start cut List.mem_cons_self
      have hfirst := hwindow.start first hs
      rw [hs, Option.getD_some] at hpos
      omega
  ordered first hfirst last hlast := by
    have hpos := h.start cut List.mem_cons_self
    have hs : options.start = some first := hfirst
    cases hlast
    rw [hs, Option.getD_some] at hpos
    omega

theorem Cuts.window_rest (h : options.Cuts (cut :: cuts)) (hwindow : options.Window) :
    (options.rowsFrom cut).Window where
  start first hfirst := by
    cases hfirst
    exact Int.natCast_nonneg cut
  stop := hwindow.stop
  ordered first hfirst last hlast := by
    cases hfirst
    exact h.stop last hlast cut List.mem_cons_self

theorem Cuts.window_of_mem (h : options.Cuts cuts) (hwindow : options.Window) {page : ScanOptions}
    (hpage : page ∈ options.pages cuts) : page.Window := by
  induction cuts generalizing options with
  | nil =>
    obtain rfl := List.mem_singleton.mp hpage
    exact hwindow
  | cons cut cuts ih =>
    rcases List.mem_cons.mp hpage with rfl | hrest
    · exact h.window_first hwindow
    · exact ih h.tail (h.window_rest hwindow) hrest

/-- Pages of options that ask only for what there is do so too. -/
theorem WellFormed.page (hvalid : options.WellFormed schema) (h : options.Cuts cuts)
    {page : ScanOptions} (hpage : page ∈ options.pages cuts) : page.WellFormed schema := by
  obtain ⟨hpredicate, hprojection⟩ := of_mem_pages hpage
  refine ⟨h.window_of_mem hvalid.window hpage, ?_, ?_⟩
  · rw [hpredicate]
    exact hvalid.predicate
  · rw [hprojection]
    exact hvalid.projection

/-- The rows of the pages are the rows of the scan. -/
theorem Cuts.rows_pages (h : options.Cuts cuts) (source : List Row) :
    (options.pages cuts).flatMap (·.rows source) = options.rows source := by
  have hpage : ∀ page ∈ options.pages cuts, page.rows source =
      ((page.window source).filter options.accepts).map options.shown := by
    intro page hmem
    obtain ⟨hpredicate, hprojection⟩ := of_mem_pages hmem
    have haccepts : page.accepts = options.accepts := by
      funext row
      rw [accepts, accepts, hpredicate]
    have hshown : page.shown = options.shown := by
      funext row
      rw [shown, shown, hprojection]
    rw [rows_eq_window, haccepts, hshown]
  rw [List.flatMap_congr hpage, ← List.map_flatMap, ← List.filter_flatMap, h.window_pages,
    ← rows_eq_window]

theorem Cuts.calls_pages (h : options.Cuts cuts) (source : List Row) :
    ((options.pages cuts).flatMap fun page => (page.window source).flatMap page.calls) =
      (options.window source).flatMap options.calls := by
  have hpage : ∀ page ∈ options.pages cuts, (page.window source).flatMap page.calls =
      (page.window source).flatMap options.calls := by
    intro page hmem
    have hcalls : page.calls = options.calls := by
      funext row
      rw [calls, calls, (of_mem_pages hmem).1]
    rw [hcalls]
  rw [List.flatMap_congr hpage, ← List.flatMap_assoc, h.window_pages]

end ScanOptions

/-- A window that is read page by page loses nothing and repeats nothing. If a scan can be built, so can
the scan of each of its pages, wherever its window is cut, also past the end of the source. What the
scans of the pages collect one after the other is what the single scan yields, rows and calls, and in
whatever way one of them is used up it yields what it collects. -/
theorem ScanBuilder.pages_yield {builder : ScanBuilder} {stream : RowStream}
    (h : builder.build.result = .ok stream) {cuts : List Nat} (hcuts : builder.options.Cuts cuts) :
    ∃ readers : List RowStream,
      List.Forall₂ (fun page reader => (builder.withOptions page).build.result = .ok reader)
          (builder.options.pages cuts) readers ∧
        stream.Yields (readers.flatMap (·.collect.answer))
          (readers.flatMap (·.collect.trace.calls)) ∧
        ∀ reader ∈ readers, reader.Yields reader.collect.answer reader.collect.trace.calls := by
  obtain ⟨plan, hplan, rfl⟩ := plan_of_build h
  have hvalid := ((ScanPlan.checks_check _ _).ok_iff.mp hplan).1
  let reader (page : ScanOptions) : RowStream :=
    (page.planned builder.schema).stream builder.source
  have hreader : ∀ page ∈ builder.options.pages cuts,
      (reader page).Yields (page.rows builder.source.rows)
        ((page.window builder.source.rows).flatMap page.calls) := by
    intro page hpage
    exact (ScanPlan.carries_planned (hvalid.page hcuts hpage)).yields builder.source
  refine ⟨(builder.options.pages cuts).map reader, ?_, ?_, ?_⟩
  · refine List.forall₂_map_right_iff.mpr (List.forall₂_same.mpr fun page hpage => ?_)
    exact build_of_wellFormed (hvalid.page hcuts hpage)
  · have hyields := (ScanPlan.carries_of_check hplan).yields builder.source
    rw [← hcuts.rows_pages, ← hcuts.calls_pages] at hyields
    rw [List.flatMap_map, List.flatMap_map,
      List.flatMap_congr fun page hpage => (hreader page hpage).collect.1,
      List.flatMap_congr fun page hpage => (hreader page hpage).collect.2]
    exact hyields
  · intro _ hmem
    obtain ⟨page, hpage, rfl⟩ := List.mem_map.mp hmem
    have hpage := hreader page hpage
    rw [hpage.collect.1, hpage.collect.2]
    exact hpage

/-- Three rows read from the second on, without an end. -/
def ScanBuilder.openEnded : ScanBuilder :=
  (Table.scan ⟨resuming.schema, [⟨"a", [.int32 9, .utf8 "u"]⟩, ⟨"b", [.int32 5, .null]⟩,
    ⟨"c", [.int32 7, .utf8 "v"]⟩]⟩).withOptions
      ⟨some 1, none, some (.userDefined ⟨1, .utf8⟩ .stored ⟨"gap", Value.isNull⟩), some [0]⟩

/-- The first cut lies in the table and the second past its end, so that the last page is empty. -/
theorem ScanBuilder.pages_yield_past :
    ∃ (stream : RowStream) (readers : List RowStream),
      openEnded.build.result = .ok stream ∧ openEnded.options.Cuts [2, 7] ∧
      readers.length = 3 ∧ stream.collect.answer = readers.flatMap (·.collect.answer) ∧
      stream.collect.trace.calls = readers.flatMap (·.collect.trace.calls) ∧
      stream.collect.answer = [⟨"b", [.int32 5]⟩] ∧
      stream.collect.trace.calls = [⟨"gap", .null⟩, ⟨"gap", .utf8 "v"⟩] := by
  let plan : ScanPlan := ⟨1, none, openEnded.options.predicate, some [0], ⟨[⟨"size", .int32⟩]⟩⟩
  have h : openEnded.build.result = .ok (plan.stream openEnded.source) := rfl
  have hcuts : openEnded.options.Cuts [2, 7] := ⟨by decide, by decide, nofun⟩
  obtain ⟨readers, hreaders, hyields, -⟩ := pages_yield h hcuts
  refine ⟨plan.stream openEnded.source, readers, h, hcuts, hreaders.length_eq.symm,
    hyields.collect.1, hyields.collect.2, ?_, ?_⟩
  · decide +kernel
  · decide +kernel

end TableScan
