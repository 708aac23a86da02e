import Mathlib.Data.List.Basic
import TableScan.Proofs.Pipeline
import TableScan.Proofs.Predicate.Reads
import TableScan.Proofs.Scan.Rows

/-!
Scans of degraded data. A row degrades when cells of it get lost: some become missing where they are,
others are dropped from the end. A comparison needs its cell, whatever its operator and its literal are,
so a predicate without tests of the caller can only accept less of a degraded row, and a scan only
fewer of the rows of a degraded source.
-/

namespace TableScan

/-! ## Predicates on degraded rows -/

/-- Whether the predicate is made of comparisons alone, without tests of the caller. -/
def Predicate.comparesOnly : Predicate → Bool
  | comparison _ _ _ => true
  | userDefined _ _ _ => false
  | and left right => left.comparesOnly && right.comparesOnly
  | or left right => left.comparesOnly && right.comparesOnly

/-- What is left of cells when some become missing and others are dropped from the end. -/
inductive DegradedCells : List Value → List Value → Prop
  | dropped (cells : List Value) : DegradedCells [] cells
  | kept (cell : Value) {fewer cells : List Value} :
      DegradedCells fewer cells → DegradedCells (cell :: fewer) (cell :: cells)
  | blanked (cell : Value) {fewer cells : List Value} :
      DegradedCells fewer cells → DegradedCells (.null :: fewer) (cell :: cells)

/-- Whether a row is what is left of another of the same key. -/
structure Row.Degraded (fewer row : Row) : Prop where
  key : fewer.key = row.key
  cells : DegradedCells fewer.cells row.cells

theorem DegradedCells.getD {fewer cells : List Value} (h : DegradedCells fewer cells) (i : Nat) :
    fewer[i]?.getD .null = .null ∨ fewer[i]?.getD .null = cells[i]?.getD .null := by
  induction h generalizing i with
  | dropped cells => exact .inl rfl
  | kept cell _ ih =>
    cases i with
    | zero => exact .inr rfl
    | succ i => exact ih i
  | blanked cell _ ih =>
    cases i with
    | zero => exact .inl rfl
    | succ i => exact ih i

/-- A degraded row shows what the row shows, or nothing. -/
theorem Row.Degraded.readOrNull {fewer row : Row} (h : fewer.Degraded row) (index : Int) :
    fewer.readOrNull index = .null ∨ fewer.readOrNull index = row.readOrNull index := by
  cases index with
  | ofNat i => exact h.cells.getD i
  | negSucc n => exact .inl rfl

/-- Losing cells does not make a predicate accept. The induction is on the tree: a comparison that
accepts has found its cell, so the cell is that of the row. -/
theorem Predicate.holds_of_degraded {p : Predicate} (hp : p.comparesOnly = true) {fewer row : Row}
    (h : fewer.Degraded row) (hfewer : p.holds fewer = true) : p.holds row = true := by
  induction p with
  | comparison column op literal =>
    rw [holds, evaluate_comparison] at hfewer ⊢
    rcases h.readOrNull column.index with hnull | hsame
    · rw [hnull, Value.compare?_null_left] at hfewer
      contradiction
    · rw [← hsame]
      exact hfewer
  | userDefined column view test => contradiction
  | and left right ihl ihr =>
    obtain ⟨hl, hr⟩ := Bool.and_eq_true_iff.mp hp
    rw [holds_and, Bool.and_eq_true] at hfewer ⊢
    exact ⟨ihl hl hfewer.1, ihr hr hfewer.2⟩
  | or left right ihl ihr =>
    obtain ⟨hl, hr⟩ := Bool.and_eq_true_iff.mp hp
    rw [holds_or, Bool.or_eq_true] at hfewer ⊢
    exact hfewer.imp (ihl hl) (ihr hr)

/-! ## Scans of degraded sources -/

namespace ScanPlan

/-- Whether the plan keeps a row that it finds at a position. -/
def keeps (plan : ScanPlan) (row : Row) (position : Nat) : Bool :=
  inWindow plan.start plan.stop position && plan.predicate.all (·.holds row)

/-- The source positions of the rows that the plan keeps. -/
def positions (plan : ScanPlan) (source : List Row) : List Nat :=
  (source.zipIdx.filter fun entry => plan.keeps entry.1 entry.2).map Prod.snd

/-- The row as the plan hands it out. -/
def shown (plan : ScanPlan) (row : Row) : Row :=
  match plan.projection with
  | none => row
  | some columns => ⟨row.key, columns.map fun i => row.cells[i]?.getD .null⟩

/-- The stages of a plan, one after the other, as operations on lists. -/
theorem rows_stages (plan : ScanPlan) (source : List Row) :
    Stack.rows plan.stages source =
      (((source.zipIdx.filter fun entry => inWindow plan.start plan.stop entry.2).map
        Prod.fst).filter fun row => plan.predicate.all (·.holds row)).map plan.shown := by
  have hfilter : ∀ rows : List Row, Stack.rows (plan.predicate.map Stage.filter).toList rows =
      rows.filter fun row => plan.predicate.all (·.holds row) := by
    intro rows
    cases plan.predicate with
    | none => exact (List.filter_eq_self.mpr fun _ _ => rfl).symm
    | some p => rfl
  have hshown : ∀ rows : List Row,
      Stack.rows (plan.projection.map Stage.project).toList rows = rows.map plan.shown := by
    intro rows
    unfold shown
    cases plan.projection with
    | none => exact (List.map_id' rows).symm
    | some columns => rfl
  rw [← hfilter, ← hshown, ← Stack.rows_append]
  rfl

theorem rows_stages_eq_positions (plan : ScanPlan) (source : List Row) :
    Stack.rows plan.stages source =
      (plan.positions source).filterMap fun position => source[position]?.map plan.shown := by
  let kept := source.zipIdx.filter fun entry => plan.keeps entry.1 entry.2
  have hrow : ∀ entry ∈ kept, source[entry.2]?.map plan.shown = some (plan.shown entry.1) := by
    intro entry he
    have hentry := List.mem_zipIdx_iff_getElem?.mp (List.mem_filter.mp he).1
    rw [hentry, Option.map_some]
  calc Stack.rows plan.stages source
      = kept.map (plan.shown ·.1) := by
        rw [rows_stages, List.filter_map, List.filter_filter, List.map_map]
        simp only [kept, keeps, Function.comp_def, Bool.and_comm]
    _ = kept.filterMap fun entry => source[entry.2]?.map plan.shown :=
        (List.filterMap_eq_map_iff_forall_eq_some.mpr hrow).symm
    _ = _ := by
        rw [positions, List.filterMap_map]
        rfl

/-- A row that is kept once it is degraded is kept before. -/
theorem keeps_of_degraded {plan : ScanPlan} (hp : ∀ p ∈ plan.predicate, p.comparesOnly = true)
    {fewer row : Row} (h : fewer.Degraded row) {position : Nat}
    (hkeeps : plan.keeps fewer position = true) : plan.keeps row position = true := by
  unfold keeps at hkeeps ⊢
  obtain ⟨hwindow, haccepts⟩ := Bool.and_eq_true_iff.mp hkeeps
  refine Bool.and_eq_true_iff.mpr ⟨hwindow, ?_⟩
  cases hpredicate : plan.predicate with
  | none => rfl
  | some p =>
    rw [hpredicate] at haccepts
    exact Predicate.holds_of_degraded (hp p hpredicate) h haccepts

/-- The induction is on the rows of both sources at once, from any position on. -/
theorem positions_sublist {plan : ScanPlan} (hp : ∀ p ∈ plan.predicate, p.comparesOnly = true)
    {degraded source : List Row} (h : List.Forall₂ Row.Degraded degraded source) :
    (plan.positions degraded).Sublist (plan.positions source) := by
  unfold positions
  generalize 0 = position
  induction h generalizing position with
  | nil => exact List.Sublist.refl _
  | @cons fewer row degraded source hrow hrest ih =>
    rw [List.zipIdx_cons, List.zipIdx_cons]
    by_cases hfewer : plan.keeps fewer position = true
    · have hkept := keeps_of_degraded hp hrow hfewer
      rw [List.filter_cons_of_pos (by exact hfewer), List.filter_cons_of_pos (by exact hkept)]
      exact (ih (position + 1)).cons_cons position
    · rw [List.filter_cons_of_neg (by exact hfewer)]
      by_cases hkept : plan.keeps row position = true
      · rw [List.filter_cons_of_pos (by exact hkept)]
        exact (ih (position + 1)).cons position
      · rw [List.filter_cons_of_neg (by exact hkept)]
        exact ih (position + 1)

/-- Missing data can only shrink what a predicate without tests of the caller accepts, whatever its
literals are and whether it is valid or not: a row that it accepts after cells were lost it accepts with
them. So a plan with such a predicate keeps, of a degraded source, rows at positions only at which it
keeps the row of the source; and on any source it hands out just the rows at the positions that it
keeps. -/
theorem degraded_sublist {p : Predicate} (hp : p.comparesOnly = true) :
    (∀ fewer row : Row, fewer.Degraded row → p.holds fewer = true → p.holds row = true) ∧
      ∀ plan : ScanPlan, plan.predicate = some p →
        (∀ degraded source : Feed, List.Forall₂ Row.Degraded degraded.rows source.rows →
          (plan.positions degraded.rows).Sublist (plan.positions source.rows)) ∧
        ∀ source : Feed, Serves RowStream.ask (plan.stream source)
          ((plan.positions source.rows).filterMap fun position =>
            source.rows[position]?.map plan.shown) := by
  refine ⟨fun fewer row h => Predicate.holds_of_degraded hp h, fun plan hplan => ⟨?_, ?_⟩⟩
  · intro degraded source h
    refine positions_sublist (fun q hq => ?_) h
    rw [hplan] at hq
    cases hq
    exact hp
  · intro source
    rw [← rows_stages_eq_positions]
    exact RowStream.serves (Stack.serves plan.stages source)

/-- A plan with a literal that is missing and one of another type than its cells, so that no schema
takes it. -/
def lossyPlan : ScanPlan where
  start := 0
  stop := some 2
  predicate := some (.or (.comparison ⟨0, .int32⟩ .neq (.int32 3))
    (.and (.comparison ⟨1, .utf8⟩ .leq (.boolean true)) (.comparison ⟨0, .int32⟩ .eq .null)))
  projection := none
  schema := ⟨[⟨"size", .int32⟩, ⟨"label", .utf8⟩]⟩

/-- The first row loses a cell that the predicate does not need; the others lose the one that it
does. -/
theorem degraded_sublist_lossy :
    let source : Feed := .ofRows [⟨"a", [.int32 4, .utf8 "k"]⟩, ⟨"b", [.int32 5, .utf8 "x"]⟩,
      ⟨"c", [.int32 6, .utf8 "z"]⟩]
    let degraded : Feed := .ofRows [⟨"a", [.int32 4]⟩, ⟨"b", [.null, .utf8 "x"]⟩, ⟨"c", []⟩]
    List.Forall₂ Row.Degraded degraded.rows source.rows ∧
      lossyPlan.positions degraded.rows = [0] ∧ lossyPlan.positions source.rows = [0, 1, 2] ∧
      (lossyPlan.positions degraded.rows).Sublist (lossyPlan.positions source.rows) := by
  intro source degraded
  have h : List.Forall₂ Row.Degraded degraded.rows source.rows :=
    .cons ⟨rfl, .kept _ (.dropped _)⟩ (.cons ⟨rfl, .blanked _ (.kept _ (.dropped _))⟩
      (.cons ⟨rfl, .dropped _⟩ .nil))
  refine ⟨h, by decide +kernel, by decide +kernel, ?_⟩
  exact ((degraded_sublist rfl).2 lossyPlan rfl).1 degraded source h

end ScanPlan

end TableScan
