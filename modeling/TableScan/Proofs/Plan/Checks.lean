import TableScan.Proofs.Predicate.Leaves
import TableScan.Scan.Plan

/-!
The checks that options have to pass before they become a plan: the bounds of the window, the leaves
of the predicate, the columns of the projection. For each check it is said what passes and what the
fault of all else is; together they tell on which options a plan is made, and the fault of the others.
-/

namespace TableScan

/-- The fault of an index that names no column. -/
def Schema.ColumnFault (schema : Schema) (index : Int) (error : ScanError) : Prop :=
  ¬schema.catalog.Names index ∧ error = .columnOutOfBounds index schema.width

namespace ScanOptions

/-- Bounds of a window: none is negative, and they are in order. -/
structure Window (options : ScanOptions) : Prop where
  start : ∀ bound ∈ options.start, 0 ≤ bound
  stop : ∀ bound ∈ options.stop, 0 ≤ bound
  ordered : ∀ first ∈ options.start, ∀ last ∈ options.stop, first ≤ last

/-- The first fault of the bounds. -/
inductive WindowFault (options : ScanOptions) : ScanError → Prop
  | negativeStart {bound : Int} : options.start = some bound → bound < 0 →
      WindowFault options (.negativeStart bound)
  | negativeEnd {bound : Int} : (∀ first ∈ options.start, 0 ≤ first) →
      options.stop = some bound → bound < 0 → WindowFault options (.negativeEnd bound)
  | startAfterEnd {first last : Nat} : options.start = some (first : Int) →
      options.stop = some (last : Int) → last < first →
      WindowFault options (.startAfterEnd first last)

/-- Options that ask only for what there is. -/
structure WellFormed (schema : Schema) (options : ScanOptions) : Prop where
  window : options.Window
  predicate : ∀ p ∈ options.predicate, ∀ leaf ∈ p.leaves, leaf.Valid schema.catalog
  projection : ∀ columns ∈ options.projection, ∀ index ∈ columns, schema.catalog.Names index

/-- The first fault of the options. The predicate counts only if the window is valid, and the
projection only if the predicate is as well. -/
inductive Fault (schema : Schema) (options : ScanOptions) : ScanError → Prop
  | window {error : ScanError} : options.WindowFault error → Fault schema options error
  | predicate {p : Predicate} {fault : ValidationError} : options.Window →
      options.predicate = some p →
      FirstFault (Leaf.Valid schema.catalog) (Leaf.Fault schema.catalog) p.leaves fault →
      Fault schema options (.ofValidation fault)
  | projection {columns : List Int} {error : ScanError} : options.Window →
      (∀ p ∈ options.predicate, ∀ leaf ∈ p.leaves, leaf.Valid schema.catalog) →
      options.projection = some columns →
      FirstFault schema.catalog.Names schema.ColumnFault columns error →
      Fault schema options error

/-- The plan that is made of the options. -/
def planned (schema : Schema) (options : ScanOptions) : ScanPlan where
  start := (options.start.map Int.toNat).getD 0
  stop := options.stop.map Int.toNat
  predicate := options.predicate
  projection := options.projection.map (·.map Int.toNat)
  schema := ScanPlan.outputSchema schema (options.projection.map (·.map Int.toNat))

section Projection

variable {schema : Schema} {options : ScanOptions} {columns : List Int}

theorem schema_planned_of_none (hc : options.projection = none) :
    (options.planned schema).schema = schema := by
  simp only [planned, hc]
  rfl

theorem schema_planned_of_some (hc : options.projection = some columns) :
    (options.planned schema).schema = schema.project (columns.map Int.toNat) := by
  simp only [planned, hc]
  rfl

/-- The positions of a projection are those of columns. -/
theorem WellFormed.lt_width (h : options.WellFormed schema)
    (hc : options.projection = some columns) :
    ∀ position ∈ columns.map Int.toNat, position < schema.width := by
  rw [List.forall_mem_map]
  exact fun index hindex => (h.projection columns hc index hindex).toNat_lt

end Projection

end ScanOptions

namespace ScanPlan

/-! ## The window -/

theorem checks_bound (fault : Int → ScanError) (bound : Option Int) :
    Checks (checkBound fault bound) (∀ n ∈ bound, 0 ≤ n) (bound.map Int.toNat)
      fun error => ∃ n ∈ bound, n < 0 ∧ error = fault n := by
  rcases bound with _ | ⟨n | n⟩
  · exact .of_valid (by simp) rfl (by simp)
  · have hn : ¬(n : Int) < 0 := Int.not_lt.mpr (Int.natCast_nonneg n)
    exact .of_valid (by simp) rfl (by simp [hn])
  · have hn : Int.negSucc n < 0 := Int.negSucc_lt_zero n
    exact .of_fault (by simp) rfl (by simp [hn])

/-- The bounds are compared only if both are there. -/
theorem checks_order (start stop : Option Nat) :
    Checks
      (match start, stop with
      | some first, some last =>
        if last < first then .error (ScanError.startAfterEnd first last) else .ok (start, stop)
      | _, _ => .ok (start, stop))
      (∀ first ∈ start, ∀ last ∈ stop, first ≤ last) (start, stop)
      fun error =>
        ∃ first ∈ start, ∃ last ∈ stop, last < first ∧ error = .startAfterEnd first last := by
  rcases start with _ | first
  · exact .of_valid (by simp) rfl (by simp)
  rcases stop with _ | last
  · exact .of_valid (by simp) rfl (by simp)
  by_cases h : last < first
  · exact .of_fault (by simpa using h) (if_pos h) (by simp [h])
  · exact .of_valid (by simpa using h) (if_neg h) (by simp [h])

/-- Bounds that are not negative are in order as positions just if they are as integers. -/
theorem window_iff {options : ScanOptions} :
    options.Window ↔ (∀ n ∈ options.start, 0 ≤ n) ∧ (∀ n ∈ options.stop, 0 ≤ n) ∧
      ∀ first ∈ options.start.map Int.toNat, ∀ last ∈ options.stop.map Int.toNat,
        first ≤ last := by
  constructor
  · rintro ⟨hstart, hstop, hordered⟩
    refine ⟨hstart, hstop, ?_⟩
    intro _ hf _ hl
    obtain ⟨first, hfirst, rfl⟩ := Option.map_eq_some_iff.mp hf
    obtain ⟨last, hlast, rfl⟩ := Option.map_eq_some_iff.mp hl
    exact Int.toNat_le_toNat (hordered first hfirst last hlast)
  · rintro ⟨hstart, hstop, hordered⟩
    refine ⟨hstart, hstop, ?_⟩
    intro first hfirst last hlast
    have hle := hordered _ (Option.mem_map_of_mem _ hfirst) _ (Option.mem_map_of_mem _ hlast)
    have hfirst := hstart first hfirst
    have hlast := hstop last hlast
    omega

theorem windowFault_iff {options : ScanOptions} {error : ScanError} :
    options.WindowFault error ↔
      (∃ n ∈ options.start, n < 0 ∧ error = .negativeStart n) ∨
        (∀ n ∈ options.start, 0 ≤ n) ∧
          ((∃ n ∈ options.stop, n < 0 ∧ error = .negativeEnd n) ∨
            (∀ n ∈ options.stop, 0 ≤ n) ∧
              ∃ first ∈ options.start.map Int.toNat, ∃ last ∈ options.stop.map Int.toNat,
                last < first ∧ error = .startAfterEnd first last) := by
  constructor
  · intro h
    cases h with
    | negativeStart hbound hneg => exact .inl ⟨_, hbound, hneg, rfl⟩
    | negativeEnd hstart hbound hneg => exact .inr ⟨hstart, .inl ⟨_, hbound, hneg, rfl⟩⟩
    | startAfterEnd hfirst hlast hlt =>
      rw [hfirst, hlast]
      refine .inr ⟨?_, .inr ⟨?_, _, rfl, _, rfl, hlt, rfl⟩⟩
      · simp
      · simp
  · rintro (⟨n, hn, hneg, rfl⟩ | ⟨hstart, ⟨n, hn, hneg, rfl⟩ | ⟨hstop, horder⟩⟩)
    · exact .negativeStart hn hneg
    · exact .negativeEnd hstart hn hneg
    · obtain ⟨first, hfirst, last, hlast, hlt, rfl⟩ := horder
      obtain ⟨n, hn, rfl⟩ := Option.map_eq_some_iff.mp hfirst
      obtain ⟨m, hm, rfl⟩ := Option.map_eq_some_iff.mp hlast
      refine .startAfterEnd ?_ ?_ hlt
      · rw [Int.toNat_of_nonneg (hstart n hn)]
        exact hn
      · rw [Int.toNat_of_nonneg (hstop m hm)]
        exact hm

theorem checks_window (options : ScanOptions) :
    Checks (checkWindow options) options.Window
      (options.start.map Int.toNat, options.stop.map Int.toNat) options.WindowFault := by
  have horder := checks_order (options.start.map Int.toNat) (options.stop.map Int.toNat)
  refine ((checks_bound _ _).bind fun _ => (checks_bound _ _).bind fun _ => horder).of_iff ?_ ?_
  · exact window_iff
  · exact fun _ => windowFault_iff

/-! ## The predicate and the projection -/

theorem checks_predicate (schema : Schema) (predicate : Option Predicate) :
    Checks (checkPredicate schema predicate)
      (∀ p ∈ predicate, ∀ leaf ∈ p.leaves, leaf.Valid schema.catalog) ()
      fun error => ∃ p ∈ predicate, ∃ fault,
        FirstFault (Leaf.Valid schema.catalog) (Leaf.Fault schema.catalog) p.leaves fault ∧
          error = .ofValidation fault := by
  cases predicate with
  | none => exact .of_valid (by simp) rfl (by simp)
  | some p =>
    refine ((p.checks_validate schema.catalog).mapError ScanError.ofValidation).of_iff ?_ fun e => ?_
    · simp
    · simp

theorem checks_column (schema : Schema) (index : Int) :
    Checks (checkColumn schema index) (schema.catalog.Names index) index.toNat
      (schema.ColumnFault index) := by
  by_cases h : schema.catalog.Names index
  · refine .of_valid h ?_ fun e he => he.1 h
    rw [checkColumn, Catalog.resolve?_of_names h]
  · refine .of_fault h ?_ fun e => and_iff_right h
    rw [checkColumn, Catalog.resolve?_eq_none_iff.mpr h]

theorem checks_projection (schema : Schema) (projection : Option (List Int)) :
    Checks (checkProjection schema projection)
      (∀ columns ∈ projection, ∀ index ∈ columns, schema.catalog.Names index)
      (projection.map (·.map Int.toNat))
      fun error => ∃ columns ∈ projection,
        FirstFault schema.catalog.Names schema.ColumnFault columns error := by
  cases projection with
  | none => exact .of_valid (by simp) rfl (by simp)
  | some columns =>
    refine ((Checks.mapM (checks_column schema) columns).map some).of_iff ?_ fun e => ?_
    · simp
    · simp

/-! ## All checks -/

/-- A plan is made of well-formed options, and of all others the first fault is reported. -/
theorem checks_check (schema : Schema) (options : ScanOptions) :
    Checks (check schema options) (options.WellFormed schema) (options.planned schema)
      (options.Fault schema) := by
  have hplan : Checks
      (checkProjection schema options.projection >>= fun projection => pure
        { start := (options.start.map Int.toNat).getD 0
          stop := options.stop.map Int.toNat
          predicate := options.predicate
          projection := projection
          schema := outputSchema schema projection })
      _ (options.planned schema) _ :=
    (checks_projection schema options.projection).map _
  refine ((checks_window options).bind fun _ => (checks_predicate schema options.predicate).bind
    fun _ => hplan).of_iff ?_ fun e => ?_
  · constructor
    · rintro ⟨hwindow, hpredicate, hprojection⟩
      exact ⟨hwindow, hpredicate, hprojection⟩
    · rintro ⟨hwindow, hpredicate, hprojection⟩
      exact ⟨hwindow, hpredicate, hprojection⟩
  · constructor
    · intro h
      cases h with
      | window h => exact .inl h
      | predicate hwindow hp h => exact .inr ⟨hwindow, .inl ⟨_, hp, _, h, rfl⟩⟩
      | projection hwindow hpredicate hcolumns h =>
        exact .inr ⟨hwindow, .inr ⟨hpredicate, _, hcolumns, h⟩⟩
    · rintro (h | ⟨hwindow, ⟨p, hp, fault, h, rfl⟩ | ⟨hpredicate, columns, hcolumns, h⟩⟩)
      · exact .window h
      · exact .predicate hwindow hp h
      · exact .projection hwindow hpredicate hcolumns h

end ScanPlan

end TableScan
