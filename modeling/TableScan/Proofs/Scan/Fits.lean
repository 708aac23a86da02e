import TableScan.Proofs.Scan.Rows
import TableScan.Proofs.Table

/-!
The rows of a scan under the schema of its stream. The schema skips positions without a column where a
row would show a missing cell; a plan has no such positions, so what is handed out stands under the
columns that the stream tells of.
-/

namespace TableScan

namespace Schema

variable {schema : Schema} {positions : List Nat} {row : Row}

/-- The projected cells stand under the projected columns. -/
theorem Fits.project (hrow : schema.Fits row)
    (h : ∀ position ∈ positions, position < schema.width) :
    (schema.project positions).Fits (row.project positions) := by
  rw [fits_iff]
  induction positions with
  | nil => exact .nil
  | cons position positions ih =>
    obtain ⟨hposition, hrest⟩ := List.forall_mem_cons.mp h
    have hcolumn : schema.column? position = some schema.columns[position] :=
      List.getElem?_eq_getElem hposition
    obtain ⟨cell, hcell, hadmits⟩ := hrow.cell hcolumn
    have hshown : row.cellOrNull position = cell := by
      rw [Row.cellOrNull, hcell, Option.getD_some]
    rw [columns_project_cons hcolumn]
    refine .cons ?_ (ih hrest)
    rw [hshown]
    exact hadmits

end Schema

namespace ScanOptions

variable {schema : Schema} {options : ScanOptions} {row : Row}

theorem mem_rows {source : List Row} (h : row ∈ options.rows source) :
    ∃ original ∈ source, options.shown original = row := by
  obtain ⟨entry, hselected, rfl⟩ := List.mem_map.mp h
  have hentry := List.mem_of_mem_filter (List.mem_of_mem_filter hselected)
  exact ⟨entry.1, List.fst_mem_of_mem_zipIdx hentry, rfl⟩

theorem shown_of_some {columns : List Int} (hc : options.projection = some columns) (row : Row) :
    options.shown row = row.project (columns.map Int.toNat) := by
  rw [shown, hc]
  rfl

theorem shown_fits (h : options.WellFormed schema) (hrow : schema.Fits row) :
    (options.planned schema).schema.Fits (options.shown row) := by
  cases hc : options.projection with
  | none =>
    rw [schema_planned_of_none hc, shown, hc]
    exact hrow
  | some columns =>
    rw [schema_planned_of_some hc, shown_of_some hc]
    exact hrow.project (h.lt_width hc)

/-- Under a projection the width of a row does not depend on the source. -/
theorem length_shown (h : options.WellFormed schema) {columns : List Int}
    (hc : options.projection = some columns) (row : Row) :
    (options.shown row).cells.length = (options.planned schema).schema.width := by
  rw [schema_planned_of_some hc, shown_of_some hc, Schema.width_project (h.lt_width hc),
    Row.length_project_cells]

end ScanOptions

theorem Feed.rows_ofRows (rows : List Row) : (Feed.ofRows rows).rows = rows := by
  induction rows with
  | nil => rfl
  | cons row rows ih => exact congrArg (row :: ·) ih

/-- What is handed out is a row of the source, as it is shown. -/
theorem ScanPlan.Carries.mem_handedOut {plan : ScanPlan} {options : ScanOptions}
    (h : plan.Carries options) (source : Feed) (calls : List Request) {row : Row}
    (hrow : row ∈ handedOut (RowStream.run calls (plan.stream source)).answer) :
    ∃ original ∈ source.rows, options.shown original = row := by
  rw [(plan.run_script source calls).1, h.rows_script] at hrow
  exact ScanOptions.mem_rows (List.mem_of_mem_take hrow)

/-- The rows that a stream hands out stand under its schema, if it scans a table. They can then be
pushed, in order, to an empty table of that schema, which holds them and nothing else. Over any other
source a projection still fixes how many cells they have. -/
theorem ScanBuilder.hands_out_fitting {builder : ScanBuilder} {stream : RowStream}
    (h : builder.build.result = .ok stream) (calls : List Request) :
    let handed := handedOut (RowStream.run calls stream).answer
    (∀ table : Table, table.Reachable → builder = table.scan.withOptions builder.options →
      (∀ row ∈ handed, stream.schema.Fits row) ∧
        handed.foldlM Table.push (.empty stream.schema) = .ok ⟨stream.schema, handed⟩) ∧
      (builder.options.projection ≠ none →
        ∀ row ∈ handed, row.cells.length = stream.schema.width) := by
  intro handed
  obtain ⟨plan, hplan, rfl⟩ := plan_of_build h
  obtain ⟨hvalid, rfl⟩ := (ScanPlan.checks_check _ _).ok_iff.mp hplan
  have hcarries := ScanPlan.carries_planned hvalid
  constructor
  · intro table htable hscan
    have hfits : ∀ row ∈ handed, (builder.options.planned builder.schema).schema.Fits row := by
      intro row hrow
      obtain ⟨original, horiginal, rfl⟩ := hcarries.mem_handedOut builder.source calls hrow
      refine ScanOptions.shown_fits hvalid ?_
      rw [hscan] at horiginal ⊢
      exact htable.fits original (Feed.rows_ofRows table.rows ▸ horiginal)
    exact ⟨hfits, Table.push_all hfits⟩
  · intro hprojection row hrow
    obtain ⟨columns, hcolumns⟩ := Option.ne_none_iff_exists'.mp hprojection
    obtain ⟨original, -, rfl⟩ := hcarries.mem_handedOut builder.source calls hrow
    exact ScanOptions.length_shown hvalid hcolumns original

/-- A column handed out twice, on a table and on a row without cells. -/
theorem ScanBuilder.hands_out_fitting_doubled :
    let schema : Schema := ⟨[⟨"size", .int32⟩, ⟨"label", .utf8⟩]⟩
    let options : ScanOptions := ⟨none, none, none, some [1, 0, 1]⟩
    let shown : Row := ⟨"a", [.null, .int32 9, .null]⟩
    (∃ table stream, (Table.empty schema).push ⟨"a", [.int32 9, .null]⟩ = .ok table ∧
      (table.scan.withOptions options).build.result = .ok stream ∧
      [shown].foldlM Table.push (.empty stream.schema) = .ok ⟨stream.schema, [shown]⟩) ∧
      ∃ stream, (ScanBuilder.build ⟨schema, [some ⟨"x", []⟩], options⟩).result = .ok stream ∧
        ∀ row ∈ handedOut (RowStream.run [.next] stream).answer, row.cells.length = 3 := by
  intro schema options shown
  have hpush : (Table.empty schema).push ⟨"a", [.int32 9, .null]⟩ =
      .ok ⟨schema, [⟨"a", [.int32 9, .null]⟩]⟩ := rfl
  obtain ⟨stream, hbuild⟩ : ∃ stream, ((Table.mk schema [⟨"a", [.int32 9, .null]⟩]).scan.withOptions
      options).build.result = .ok stream := ⟨_, rfl⟩
  obtain ⟨ragged, hragged⟩ : ∃ stream,
      (ScanBuilder.build ⟨schema, [some ⟨"x", []⟩], options⟩).result = .ok stream := ⟨_, rfl⟩
  refine ⟨⟨_, stream, hpush, hbuild, ?_⟩, ragged, hragged, ?_⟩
  · obtain ⟨hfits, -⟩ := hands_out_fitting hbuild [.next]
    have hhanded : handedOut (RowStream.run [.next] stream).answer = [shown] := by
      cases hbuild
      decide +kernel
    exact hhanded ▸ (hfits _ (.push (.empty schema) hpush) rfl).2
  · obtain ⟨-, hwidth⟩ := hands_out_fitting hragged [.next]
    cases hragged
    exact hwidth nofun

end TableScan
