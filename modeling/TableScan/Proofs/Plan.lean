import TableScan.Proofs.Plan.Checks
import TableScan.Scan.Builder

/-!
What a plan takes over from the options it was made of. A plan that passed its checks has the bounds,
the predicate and the columns that were asked for, and its bounds are in order. Options that do not
pass are answered with their first fault.
-/

namespace TableScan

theorem Schema.columns_project_cons {schema : Schema} {position : Nat} {column : Column}
    (h : schema.column? position = some column) (positions : List Nat) :
    (schema.project (position :: positions)).columns =
      column :: (schema.project positions).columns :=
  List.filterMap_cons_some h

/-- Where every position has a column, none is skipped. -/
theorem Schema.columns_project {schema : Schema} {positions : List Nat}
    (h : ∀ position ∈ positions, position < schema.width) :
    (schema.project positions).columns.map some = positions.map schema.column? := by
  induction positions with
  | nil => rfl
  | cons position positions ih =>
    obtain ⟨hposition, hrest⟩ := List.forall_mem_cons.mp h
    have hcolumn : schema.column? position = some schema.columns[position] :=
      List.getElem?_eq_getElem hposition
    rw [columns_project_cons hcolumn, List.map_cons, List.map_cons, ih hrest, hcolumn]

theorem Schema.width_project {schema : Schema} {positions : List Nat}
    (h : ∀ position ∈ positions, position < schema.width) :
    (schema.project positions).width = positions.length := by
  have hlength := congrArg List.length (columns_project h)
  rwa [List.length_map, List.length_map] at hlength

/-- The column at an index is the one at the projected position. -/
theorem Schema.column?_project {schema : Schema} {positions : List Nat}
    (h : ∀ position ∈ positions, position < schema.width) (i : Nat) :
    (schema.project positions).column? i = positions[i]?.bind schema.column? := by
  have hcolumns : (schema.project positions).columns[i]?.map some =
      positions[i]?.map schema.column? := by
    rw [← List.getElem?_map, ← List.getElem?_map, columns_project h]
  cases hposition : positions[i]? with
  | none =>
    rw [hposition] at hcolumns
    exact Option.map_eq_none_iff.mp hcolumns
  | some position =>
    rw [hposition] at hcolumns
    obtain ⟨column, hcolumn, heq⟩ := Option.map_eq_some_iff.mp hcolumns
    exact hcolumn.trans heq

namespace ScanPlan

variable {schema : Schema} {options : ScanOptions} {plan : ScanPlan}

/-- A plan that asks for what the options ask for, with bounds in order. -/
structure Carries (plan : ScanPlan) (options : ScanOptions) : Prop where
  start : (plan.start : Int) = options.start.getD 0
  stop : plan.stop.map Int.ofNat = options.stop
  ordered : ∀ last ∈ plan.stop, plan.start ≤ last
  predicate : plan.predicate = options.predicate
  projection : plan.projection.map (List.map Int.ofNat) = options.projection

theorem map_toNat {bound : Option Int} (h : ∀ n ∈ bound, 0 ≤ n) :
    (bound.map Int.toNat).map Int.ofNat = bound := by
  cases bound with
  | none => rfl
  | some n => exact congrArg some (Int.toNat_of_nonneg (h n rfl))

theorem carries_planned (h : options.WellFormed schema) :
    (options.planned schema).Carries options where
  start := by
    simp only [ScanOptions.planned]
    cases hs : options.start with
    | none => rfl
    | some n => exact Int.toNat_of_nonneg (h.window.start n hs)
  stop := map_toNat h.window.stop
  ordered := by
    intro last hlast
    obtain ⟨stop, hstop, rfl⟩ := Option.map_eq_some_iff.mp hlast
    simp only [ScanOptions.planned]
    cases hs : options.start with
    | none => exact Nat.zero_le _
    | some first => exact Int.toNat_le_toNat (h.window.ordered first hs stop hstop)
  predicate := rfl
  projection := by
    simp only [ScanOptions.planned]
    cases hc : options.projection with
    | none => rfl
    | some columns =>
      have hnames := h.projection columns hc
      have hcast : ∀ index ∈ columns, Int.ofNat index.toNat = id index := fun index hindex =>
        Int.toNat_of_nonneg (hnames index hindex).1
      simp only [Option.map_some, List.map_map, Option.some.injEq]
      exact (List.map_congr_left hcast).trans (List.map_id columns)

theorem carries_of_check (h : check schema options = .ok plan) : plan.Carries options := by
  obtain ⟨hvalid, rfl⟩ := (checks_check schema options).ok_iff.mp h
  exact carries_planned hvalid

/-- A plan is made of exactly the options that ask for what there is: bounds in order and not negative,
a predicate whose leaves are valid, and columns of the schema. It takes over what was asked for, and
its rows have the columns at the projected positions. All other options are answered with their first
fault; the fault of a leaf keeps its index or its text. -/
theorem validate_first_fault (schema : Schema) (options : ScanOptions) :
    let result := (validate schema options).result
    ((∃ plan, result = .ok plan) ↔ options.WellFormed schema) ∧
      (∀ plan, result = .ok plan → plan.Carries options ∧
        (options.projection = none → plan.schema = schema) ∧
        ∀ columns ∈ options.projection,
          plan.schema.columns.map some = columns.map fun index => schema.column? index.toNat) ∧
      (∀ error, result = .error error ↔ options.Fault schema error) ∧
      (∀ index count, ScanError.ofValidation (.columnOutOfRange index count) =
        .columnOutOfBounds index count) ∧
      ∀ mismatch, (ScanError.ofValidation (.incompatible mismatch)).message =
        "invalid argument: " ++ (ValidationError.incompatible mismatch).message := by
  have hcheck := checks_check schema options
  refine ⟨?_, fun plan hplan => ?_, fun error => hcheck.error_iff, fun _ _ => rfl, fun _ => rfl⟩
  · constructor
    · rintro ⟨plan, hplan⟩
      exact (hcheck.ok_iff.mp hplan).1
    · intro h
      exact ⟨_, hcheck.ok h⟩
  · obtain ⟨hvalid, rfl⟩ := hcheck.ok_iff.mp hplan
    refine ⟨carries_planned hvalid, ScanOptions.schema_planned_of_none, fun columns hcolumns => ?_⟩
    rw [ScanOptions.schema_planned_of_some hcolumns,
      Schema.columns_project (hvalid.lt_width hcolumns), List.map_map]
    rfl

/-- Options with faults in the window, in the predicate and in the projection. -/
def faultyOptions : ScanOptions where
  start := some 3
  stop := some 1
  predicate := some (.or (.comparison ⟨1, .binary⟩ .lt (.binary [0]))
    (.comparison ⟨2, .int32⟩ .eq (.int32 0)))
  projection := some [0, -1]

theorem validate_first_fault_faulty :
    let schema : Schema := ⟨[⟨"size", .int32⟩, ⟨"blob", .binary⟩]⟩
    (validate schema faultyOptions).result = .error (.startAfterEnd 3 1) ∧
      (validate schema (faultyOptions.rowsTo 4)).result =
        .error (.incompatible ⟨"blob", 1, .binary, .binary, .lt⟩) ∧
      (validate schema { faultyOptions with stop := none, predicate := none }).result =
        .error (.columnOutOfBounds (-1) 2) ∧
      ∃ plan, (validate schema ⟨some 1, some 3, none, some [1, 0]⟩).result = .ok plan ∧
        plan.schema.columns.map some = [some ⟨"blob", .binary⟩, some ⟨"size", .int32⟩] := by
  intro schema
  have hmismatch : (Leaf.comparison ⟨1, .binary⟩ .lt (.binary [0])).Fault schema.catalog
      (.incompatible ⟨"blob", 1, .binary, .binary, .lt⟩) := .unsuited rfl rfl
  have hcolumn : schema.ColumnFault (-1) (.columnOutOfBounds (-1) 2) := ⟨by decide, rfl⟩
  have hwell : ScanOptions.WellFormed schema ⟨some 1, some 3, none, some [1, 0]⟩ := by
    refine ⟨⟨?_, ?_, ?_⟩, nofun, ?_⟩
    all_goals simp [schema, Catalog.Names, Schema.catalog, Schema.width]
  refine ⟨?_, ?_, ?_, ?_⟩
  · exact ((validate_first_fault schema _).2.2.1 _).mpr (.window (.startAfterEnd rfl rfl (by decide)))
  · have hwindow : (faultyOptions.rowsTo 4).Window := by
      constructor
      all_goals simp [faultyOptions, ScanOptions.rowsTo]
    have hfault : (faultyOptions.rowsTo 4).Fault schema (.ofValidation (.incompatible _)) :=
      .predicate hwindow rfl (.here hmismatch)
    exact ((validate_first_fault schema _).2.2.1 _).mpr hfault
  · refine ((validate_first_fault schema _).2.2.1 _).mpr
      (.projection ⟨?_, nofun, nofun⟩ nofun rfl (.later ?_ (.here hcolumn)))
    · simp [faultyOptions]
    · exact ⟨by decide, by decide⟩
  · obtain ⟨plan, hplan⟩ := (validate_first_fault schema _).1.mpr hwell
    exact ⟨plan, hplan, ((validate_first_fault schema _).2.1 plan hplan).2.2 _ rfl⟩

end ScanPlan

/-- A stream that was built is a checked plan at work on the builder's source. -/
theorem ScanBuilder.plan_of_build {builder : ScanBuilder} {stream : RowStream}
    (h : builder.build.result = .ok stream) :
    ∃ plan, ScanPlan.check builder.schema builder.options = .ok plan ∧
      stream = plan.stream builder.source := by
  simp only [build, ScanBuilder.plan, ScanPlan.validate] at h
  cases hc : ScanPlan.check builder.schema builder.options with
  | error e => rw [hc] at h; cases h
  | ok plan =>
    rw [hc] at h
    exact ⟨plan, rfl, (Except.ok.inj h).symm⟩

end TableScan
