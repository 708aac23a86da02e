import Mathlib.Data.Nat.Find
import TableScan.Proofs.Batch.Keys

/-!
What keeps a batch from being loaded. Its fields are looked at first, then the choice of the key column,
then the keys row by row, and the first fault is the one that is reported.
-/

namespace TableScan

/-- A field that stands for a column. -/
def Field.Supported (field : Field) : Prop := field.type.columnType? ≠ none

inductive Field.Fault : Field → SchemaError → Prop
  | unsupported {field : Field} : ¬field.Supported →
      Fault field (.unsupportedType field.name field.type.spelling)

theorem Field.exists_fault_iff (field : Field) :
    (∃ error, field.Fault error) ↔ ¬field.Supported := by
  constructor
  · rintro ⟨_, ⟨hfield⟩⟩
    exact hfield
  · exact fun h => ⟨_, .unsupported h⟩

namespace RecordBatch

variable {batch : RecordBatch} {key : Option String} {name : String} {error : TableError}

/-- What is reported of a batch that does not load. -/
inductive LoadFault (batch : RecordBatch) : Option String → TableError → Prop
  | unsupported {key : Option String} {error : SchemaError} :
      FirstFault Field.Supported Field.Fault batch.fields error →
      LoadFault batch key (.schema error)
  | key {name : String} {error : TableError} : (∀ field ∈ batch.fields, field.Supported) →
      batch.KeyFault name error → LoadFault batch (some name) error
  | null {name : String} {position row : Nat} {field : Field} {array : ColumnArray} :
      (∀ field ∈ batch.fields, field.Supported) → batch.FirstNamed name position field array →
      field.type = .utf8 → array.NullAt row → (∀ earlier < row, ¬array.NullAt earlier) →
      LoadFault batch (some name) (.nullKey name row)

/-! ## Fields -/

theorem columnOf_eq_error_iff {field : Field} {error : SchemaError} :
    columnOf field = .error error ↔ field.Fault error := by
  unfold columnOf
  cases htype : field.type.columnType? with
  | none =>
    constructor
    · intro herror
      cases herror
      exact .unsupported (not_not_intro htype)
    · intro hfault
      cases hfault
      rfl
  | some type =>
    refine iff_of_false nofun fun hfault => ?_
    cases hfault with
    | unsupported h => exact h (by simp [Field.Supported, htype])

theorem exists_columnOf_iff {field : Field} :
    (∃ column, columnOf field = .ok column) ↔ field.Supported := by
  unfold columnOf Field.Supported
  cases field.type.columnType? <;> simp

theorem schemaOf_eq_error_iff {fields : List Field} {error : SchemaError} :
    schemaOf fields = .error error ↔ FirstFault Field.Supported Field.Fault fields error := by
  simp only [schemaOf, map_eq_error_iff, mapM_eq_error_iff, exists_columnOf_iff,
    columnOf_eq_error_iff]

theorem exists_schemaOf_iff {fields : List Field} :
    (∃ schema, schemaOf fields = .ok schema) ↔ ∀ field ∈ fields, field.Supported := by
  rw [exists_ok_iff]
  simp only [schemaOf_eq_error_iff, FirstFault.exists_iff Field.exists_fault_iff, not_exists, not_and,
    not_not]

/-! ## Keys -/

theorem WellFormed.keySource_eq_error_iff (h : batch.WellFormed) :
    batch.keySource key = .error error ↔ ∃ name, key = some name ∧ batch.KeyFault name error := by
  cases key with
  | none => exact iff_of_false nofun nofun
  | some name =>
    rw [keySource, map_eq_error_iff, h.keyTexts_eq_error_iff]
    simp

theorem null_or_text {texts : List (Option String)} {row : Nat} (hrow : row < texts.length) :
    texts[row]? = some none ∨ ∃ text, texts[row]? = some (some text) := by
  rw [List.getElem?_eq_getElem hrow]
  cases texts[row] with
  | none => exact .inl rfl
  | some text => exact .inr ⟨text, rfl⟩

/-- Row by row, the first one without a text fails, and all before it are read. -/
theorem WellFormed.rows_eq_error_iff (h : batch.WellFormed) {position : Nat} {field : Field}
    {texts : List (Option String)} (hfirst : batch.FirstNamed name position field ⟨.utf8, texts⟩)
    (make : Nat → String → Row) :
    ((List.range batch.rowCount).mapM fun row =>
        ((KeySource.column name texts).key row).map (make row)) = .error error ↔
      ∃ row, texts[row]? = some none ∧ (∀ earlier < row, texts[earlier]? ≠ some none) ∧
        error = .nullKey name row := by
  have hlength : texts.length = batch.rowCount :=
    h.lengths _ (List.mem_of_getElem? hfirst.array_at)
  rw [mapM_eq_error_iff, FirstFault.range_iff]
  constructor
  · rintro ⟨row, hrow, hbefore, hfault⟩
    obtain ⟨hmissing, rfl⟩ := key_column_eq_error_iff.mp (map_eq_error_iff.mp hfault)
    refine ⟨row, ?_, fun earlier hearlier hnull => ?_, rfl⟩
    · refine (null_or_text (hlength ▸ hrow)).resolve_right ?_
      rintro ⟨text, htext⟩
      rw [htext] at hmissing
      cases hmissing
    · obtain ⟨made, hmade⟩ := hbefore earlier hearlier
      obtain ⟨text, htext, -⟩ := ok_of_map hmade
      cases hnull.symm.trans (key_column_eq_ok_iff.mp htext)
  · rintro ⟨row, hnull, hbefore, rfl⟩
    have hrow := (List.getElem?_eq_some_iff.mp hnull).1
    refine ⟨row, hlength ▸ hrow, fun earlier hearlier => ?_, ?_⟩
    · obtain ⟨text, htext⟩ :=
        (null_or_text (Nat.lt_trans hearlier hrow)).resolve_left (hbefore earlier hearlier)
      rw [key_column_eq_ok_iff.mpr htext]
      exact ⟨_, rfl⟩
    · exact map_eq_error_iff.mpr (key_column_eq_error_iff.mpr ⟨by rw [hnull]; rfl, rfl⟩)

/-- Row numbers are there for all rows. -/
theorem numbered_rows_ne_error {rows : List Nat} (make : Nat → String → Row) :
    (rows.mapM fun row => (KeySource.rowNumber.key row).map (make row)) ≠ .error error := by
  induction rows with
  | nil => exact nofun
  | cons row rows ih =>
    intro h
    rw [List.mapM_cons] at h
    exact ih (map_eq_error_iff.mp h)

/-! ## Loading -/

/-- A batch that loads has a column type for each field, a text column to take the keys from, and a
text there in each row. -/
theorem WellFormed.load_eq_error_iff (h : batch.WellFormed) :
    (batch.load key).result = .error error ↔ batch.LoadFault key error := by
  have hresult : (batch.load key).result = batch.tableWith .null key := rfl
  rw [hresult, h.tableWith_eq, bind_eq_error_iff, mapError_eq_error_iff]
  constructor
  · rintro (⟨fault, hfault, rfl⟩ | ⟨schema, hschema, hrest⟩)
    · exact .unsupported (schemaOf_eq_error_iff.mp hfault)
    · have hsupported := exists_schemaOf_iff.mp ⟨schema, mapError_eq_ok_iff.mp hschema⟩
      rcases bind_eq_error_iff.mp hrest with hkeys | ⟨keys, hkeys, hrows⟩
      · obtain ⟨name, rfl, hfault⟩ := h.keySource_eq_error_iff.mp hkeys
        exact .key hsupported hfault
      · rw [map_eq_error_iff] at hrows
        cases key with
        | none =>
          cases hkeys
          exact absurd hrows (numbered_rows_ne_error _)
        | some name =>
          obtain ⟨texts, htexts, rfl⟩ := ok_of_map hkeys
          obtain ⟨position, field, hfirst⟩ := h.keyTexts_eq_ok_iff.mp htexts
          obtain ⟨row, hnull, hbefore, rfl⟩ := (h.rows_eq_error_iff hfirst _).mp hrows
          exact .null hsupported hfirst (hfirst.type h).symm hnull hbefore
  · intro hfault
    cases hfault with
    | unsupported hfirst => exact .inl ⟨_, schemaOf_eq_error_iff.mpr hfirst, rfl⟩
    | key hsupported hfault =>
      obtain ⟨schema, hschema⟩ := exists_schemaOf_iff.mpr hsupported
      refine .inr ⟨schema, mapError_eq_ok_iff.mpr hschema, ?_⟩
      exact bind_eq_error_iff.mpr (.inl (h.keySource_eq_error_iff.mpr ⟨_, rfl, hfault⟩))
    | @null name _ _ _ _ hsupported hfirst htype hnull hbefore =>
      obtain ⟨schema, hschema⟩ := exists_schemaOf_iff.mpr hsupported
      obtain ⟨texts, rfl⟩ := ColumnArray.exists_texts ((hfirst.type h).trans htype)
      have hkeys : batch.keySource (some name) = .ok (.column name texts) := by
        rw [keySource, h.keyTexts_eq_ok_iff.mpr ⟨_, _, hfirst⟩]
        rfl
      have hrows := (h.rows_eq_error_iff hfirst fun row key => ⟨key, batch.cellsAt row⟩).mpr
        ⟨_, hnull, hbefore, rfl⟩
      refine .inr ⟨schema, mapError_eq_ok_iff.mpr hschema, bind_eq_error_iff.mpr (.inr ⟨_, hkeys, ?_⟩)⟩
      exact map_eq_error_iff.mpr hrows

/-- There is something to report if a field has no column type, or if the keys are asked for from a
column that is not there, that does not hold text, or that lacks one at a row. What other columns lack
does not matter. -/
theorem WellFormed.exists_loadFault_iff (h : batch.WellFormed) :
    (∃ error, batch.LoadFault key error) ↔
      (∃ field ∈ batch.fields, ¬field.Supported) ∨
        ∃ name, key = some name ∧ ((∀ field ∈ batch.fields, field.name ≠ name) ∨
          ∃ position field array, batch.FirstNamed name position field array ∧
            (field.type ≠ .utf8 ∨ ∃ row < batch.rowCount, array.NullAt row)) := by
  constructor
  · rintro ⟨error, hfault⟩
    cases hfault with
    | unsupported hfirst => exact .inl ((FirstFault.exists_iff Field.exists_fault_iff).mp ⟨_, hfirst⟩)
    | key _ hfault =>
      cases hfault with
      | unknown habsent => exact .inr ⟨_, rfl, .inl habsent⟩
      | invalid hfirst htype => exact .inr ⟨_, rfl, .inr ⟨_, _, _, hfirst, .inl htype⟩⟩
    | @null _ _ row _ array _ hfirst _ hnull _ =>
      have hrow : row < batch.rowCount := by
        rw [← h.lengths array (List.mem_of_getElem? hfirst.array_at)]
        exact (List.getElem?_eq_some_iff.mp hnull).1
      exact .inr ⟨_, rfl, .inr ⟨_, _, _, hfirst, .inr ⟨row, hrow, hnull⟩⟩⟩
  · intro hreason
    by_cases hunsupported : ∃ field ∈ batch.fields, ¬field.Supported
    · obtain ⟨error, hfirst⟩ := (FirstFault.exists_iff Field.exists_fault_iff).mpr hunsupported
      exact ⟨_, .unsupported hfirst⟩
    · have hsupported : ∀ field ∈ batch.fields, field.Supported := by simpa using hunsupported
      obtain ⟨name, rfl, habsent | ⟨position, field, array, hfirst, hcolumn⟩⟩ :=
        hreason.resolve_left hunsupported
      · exact ⟨_, .key hsupported (.unknown habsent)⟩
      · by_cases htype : field.type = .utf8
        · obtain ⟨row, -, hnull⟩ := hcolumn.resolve_left (not_not_intro htype)
          classical
          have hexists : ∃ row, array.NullAt row := ⟨row, hnull⟩
          exact ⟨_, .null hsupported hfirst htype (Nat.find_spec hexists)
            fun earlier => Nat.find_min hexists⟩
        · exact ⟨_, .key hsupported (.invalid hfirst htype)⟩

theorem load_events_eq_nil_iff :
    (batch.load key).events = [] ↔ ∃ error, (batch.load key).result = .error error := by
  unfold load
  cases batch.toTable key <;> simp

/-- Loading fails if a field has no column type, or if a key column is asked for and is not there, does
not hold text or lacks one at a row; of several reasons the first is reported. A load that fails makes
no table and logs nothing. -/
theorem WellFormed.load_fails (h : batch.WellFormed) (key : Option String) :
    ((∃ error, (batch.load key).result = .error error) ↔
      (∃ field ∈ batch.fields, ¬field.Supported) ∨
        ∃ name, key = some name ∧ ((∀ field ∈ batch.fields, field.name ≠ name) ∨
          ∃ position field array, batch.FirstNamed name position field array ∧
            (field.type ≠ .utf8 ∨ ∃ row < batch.rowCount, array.NullAt row))) ∧
      (∀ error, (batch.load key).result = .error error ↔ batch.LoadFault key error) ∧
      ((batch.load key).events = [] ↔ ∃ error, (batch.load key).result = .error error) := by
  refine ⟨?_, fun error => h.load_eq_error_iff, load_events_eq_nil_iff⟩
  rw [← h.exists_loadFault_iff]
  exact exists_congr fun error => h.load_eq_error_iff

/-- A batch whose last two fields have no column type, and whose keys are missing from the second row
on. -/
def wayward : RecordBatch where
  fields := [⟨"size", .int32⟩, ⟨"id", .utf8⟩, ⟨"day", .other "Date32"⟩, ⟨"id", .other "Int8"⟩]
  columns := [⟨.int32, ([none, some 2, none] : List (Option Int32))⟩,
    ⟨.utf8, [some "a", none, none]⟩, ⟨.other "Date32", [none, none, none]⟩,
    ⟨.other "Int8", [none, none, none]⟩]
  rowCount := 3

/-- The same without the fields that keep it from being loaded. -/
def keyless : RecordBatch := ⟨wayward.fields.take 2, wayward.columns.take 2, 3⟩

/-- The leftmost field is reported, though the key is as bad. Once the fields are sound the first key
that is missing is, whatever other columns lack, and a part without that row loads. A part without rows
does not load by a column of numbers. -/
theorem WellFormed.load_fails_wayward :
    wayward.LoadFault (some "id") (.schema (.unsupportedType "day" "Date32")) ∧
      keyless.LoadFault (some "id") (.nullKey "id" 1) ∧
      (keyless.load (some "id")).events = [] ∧
      (¬∃ error, ((keyless.slice 0 1).load (some "id")).result = .error error) ∧
      (keyless.slice 0 0).LoadFault (some "size") (.invalidKeyColumn "size" "Int32") := by
  have hwayward : wayward.WellFormed := ⟨rfl, by decide⟩
  have hkeyless : keyless.WellFormed := ⟨rfl, by decide⟩
  have hone : (keyless.slice 0 1).WellFormed := ⟨rfl, by decide⟩
  have hnone : (keyless.slice 0 0).WellFormed := ⟨rfl, by decide⟩
  obtain ⟨-, hreport, hevents⟩ := hkeyless.load_fails (some "id")
  have hnull : (keyless.load (some "id")).result = .error (.nullKey "id" 1) := by decide
  have hloaded : ((keyless.slice 0 1).load (some "id")).events ≠ [] := by decide
  refine ⟨((hwayward.load_fails _).2.1 _).mp (by decide), (hreport _).mp hnull, hevents.mpr ⟨_, hnull⟩,
    ?_, ((hnone.load_fails _).2.1 _).mp (by decide)⟩
  rw [← (hone.load_fails (some "id")).2.2]
  exact hloaded

end RecordBatch

end TableScan
