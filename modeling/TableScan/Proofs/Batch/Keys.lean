import TableScan.Proofs.Batch

/-!
Where the keys of a batch come from. The key column is the first of its name and has to hold text; of
several columns with the name the others are not looked at. Without a key column rows are numbered.
-/

namespace TableScan

/-- The element at a row is missing. -/
def ColumnArray.NullAt (array : ColumnArray) (row : Nat) : Prop := array.elements[row]? = some none

theorem ColumnArray.exists_texts {array : ColumnArray} (h : array.type = .utf8) :
    ∃ texts, array = ⟨.utf8, texts⟩ := by
  obtain ⟨type, elements⟩ := array
  subst h
  exact ⟨elements, rfl⟩

namespace RecordBatch

variable {batch : RecordBatch} {name : String} {texts : List (Option String)} {row : Nat}
  {error : TableError}

/-- The first field of a name, at its position and with its array. -/
structure FirstNamed (batch : RecordBatch) (name : String) (position : Nat) (field : Field)
    (array : ColumnArray) : Prop where
  field_at : batch.fields[position]? = some field
  array_at : batch.columns[position]? = some array
  named : field.name = name
  first : ∀ earlier < position, ∀ other, batch.fields[earlier]? = some other → other.name ≠ name

theorem find?_eq_some_iff {field : Field} {array : ColumnArray} :
    ((batch.fields.zip batch.columns).find? fun entry => entry.1.name == name) =
        some (field, array) ↔
      ∃ position, batch.FirstNamed name position field array := by
  rw [List.find?_eq_some_iff_getElem]
  constructor
  · rintro ⟨hname, position, hlt, hat, hfirst⟩
    have hentry := List.getElem?_eq_some_iff.mpr ⟨hlt, hat⟩
    obtain ⟨hfield, harray⟩ := List.getElem?_zip_eq_some.mp hentry
    refine ⟨position, hfield, harray, by simpa using hname, fun earlier hearlier other hother => ?_⟩
    obtain ⟨_, rfl⟩ := List.getElem?_eq_some_iff.mp hother
    simpa using hfirst earlier hearlier
  · rintro ⟨position, hfield, harray, hname, hfirst⟩
    have hentry : (batch.fields.zip batch.columns)[position]? = some (field, array) :=
      List.getElem?_zip_eq_some.mpr ⟨hfield, harray⟩
    obtain ⟨hlt, hat⟩ := List.getElem?_eq_some_iff.mp hentry
    refine ⟨by simpa using hname, position, hlt, hat, fun earlier hearlier => ?_⟩
    have hother := List.getElem?_zip_eq_some.mp
      (List.getElem?_eq_getElem (Nat.lt_trans hearlier hlt))
    simpa using hfirst earlier hearlier _ hother.1

theorem WellFormed.length_columns (h : batch.WellFormed) :
    batch.columns.length = batch.fields.length := by
  have hlength := congrArg List.length h.types
  rwa [List.length_map, List.length_map] at hlength

theorem WellFormed.find?_eq_none_iff (h : batch.WellFormed) :
    ((batch.fields.zip batch.columns).find? fun entry => entry.1.name == name) = none ↔
      ∀ field ∈ batch.fields, field.name ≠ name := by
  have hfields : (batch.fields.zip batch.columns).map Prod.fst = batch.fields :=
    List.map_fst_zip (Nat.le_of_eq h.length_columns.symm)
  rw [List.find?_eq_none, ← hfields, List.forall_mem_map, hfields]
  simp

/-- The array of a field is of its type. -/
theorem FirstNamed.type (h : batch.WellFormed) {position : Nat} {field : Field} {array : ColumnArray}
    (hfirst : batch.FirstNamed name position field array) : array.type = field.type := by
  have htypes := congrArg (·[position]?) h.types
  simpa [hfirst.field_at, hfirst.array_at] using htypes

/-! ## The key column -/

/-- What is wrong with the choice of a key column. -/
inductive KeyFault (batch : RecordBatch) (name : String) : TableError → Prop
  | unknown : (∀ field ∈ batch.fields, field.name ≠ name) →
      KeyFault batch name (.unknownKeyColumn name)
  | invalid {position : Nat} {field : Field} {array : ColumnArray} :
      batch.FirstNamed name position field array → field.type ≠ .utf8 →
      KeyFault batch name (.invalidKeyColumn name field.type.spelling)

/-- Either no field has the name, or there is a first one that does. -/
theorem WellFormed.absent_or_first (h : batch.WellFormed) (name : String) :
    (∀ field ∈ batch.fields, field.name ≠ name) ∨
      ∃ position field array, batch.FirstNamed name position field array := by
  cases hfind : (batch.fields.zip batch.columns).find? fun entry => entry.1.name == name with
  | none => exact .inl (h.find?_eq_none_iff.mp hfind)
  | some entry =>
    obtain ⟨position, hfirst⟩ := find?_eq_some_iff.mp hfind
    exact .inr ⟨position, entry.1, entry.2, hfirst⟩

theorem WellFormed.keyTexts_of_absent (h : batch.WellFormed)
    (habsent : ∀ field ∈ batch.fields, field.name ≠ name) :
    batch.keyTexts name = .error (.unknownKeyColumn name) := by
  rw [keyTexts, h.find?_eq_none_iff.mpr habsent]

namespace FirstNamed

variable {position : Nat} {field : Field} {array : ColumnArray}

theorem keyTexts_of_text (hfirst : batch.FirstNamed name position field array)
    (htexts : array.texts? = some texts) : batch.keyTexts name = .ok texts := by
  simp only [keyTexts, find?_eq_some_iff.mpr ⟨position, hfirst⟩, htexts]

theorem keyTexts_of_no_text (hfirst : batch.FirstNamed name position field array)
    (htexts : array.texts? = none) :
    batch.keyTexts name = .error (.invalidKeyColumn name array.type.spelling) := by
  simp only [keyTexts, find?_eq_some_iff.mpr ⟨position, hfirst⟩, htexts]

end FirstNamed

theorem WellFormed.keyTexts_eq_ok_iff (h : batch.WellFormed) :
    batch.keyTexts name = .ok texts ↔
      ∃ position field, batch.FirstNamed name position field ⟨.utf8, texts⟩ := by
  constructor
  · intro hok
    rcases h.absent_or_first name with habsent | ⟨position, field, array, hfirst⟩
    · cases hok.symm.trans (h.keyTexts_of_absent habsent)
    · cases htexts : array.texts? with
      | none => cases hok.symm.trans (hfirst.keyTexts_of_no_text htexts)
      | some found =>
        cases hok.symm.trans (hfirst.keyTexts_of_text htexts)
        exact ⟨position, field, ColumnArray.texts?_eq_some_iff.mp htexts ▸ hfirst⟩
  · rintro ⟨position, field, hfirst⟩
    exact hfirst.keyTexts_of_text rfl

theorem WellFormed.keyTexts_eq_error_iff (h : batch.WellFormed) :
    batch.keyTexts name = .error error ↔ batch.KeyFault name error := by
  constructor
  · intro herror
    rcases h.absent_or_first name with habsent | ⟨position, field, array, hfirst⟩
    · cases herror.symm.trans (h.keyTexts_of_absent habsent)
      exact .unknown habsent
    · cases htexts : array.texts? with
      | none =>
        cases herror.symm.trans (hfirst.keyTexts_of_no_text htexts)
        rw [hfirst.type h]
        refine .invalid hfirst ?_
        rw [← hfirst.type h]
        exact ColumnArray.texts?_eq_none_iff.mp htexts
      | some found => cases herror.symm.trans (hfirst.keyTexts_of_text htexts)
  · intro hfault
    cases hfault with
    | unknown habsent => exact h.keyTexts_of_absent habsent
    | invalid hfirst htype =>
      rw [← hfirst.type h] at htype ⊢
      exact hfirst.keyTexts_of_no_text (ColumnArray.texts?_eq_none_iff.mpr htype)

/-! ## The key of a row -/

theorem key_column_eq_ok_iff {key : String} :
    (KeySource.column name texts).key row = .ok key ↔ texts[row]? = some (some key) := by
  rw [KeySource.key]
  cases texts[row]? with
  | none => simp
  | some text =>
    cases text with
    | none => simp
    | some found => simp

theorem key_column_eq_error_iff :
    (KeySource.column name texts).key row = .error error ↔
      texts[row]?.join = none ∧ error = .nullKey name row := by
  rw [KeySource.key]
  cases texts[row]?.join with
  | none => simp [eq_comm]
  | some found => simp

end RecordBatch

end TableScan
