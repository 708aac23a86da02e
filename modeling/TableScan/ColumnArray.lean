import TableScan.FieldType
import TableScan.Value

/-!
Column arrays: the cells of a record batch, column by column. The elements of an array all have its
type, and any of them may be missing. A column takes an array only if it is of the type that the column
declares; the elements then become cells without a change to what they hold.
-/

namespace TableScan

namespace FieldType

/-- What an element of a type holds. Of one without a column type nothing is told. -/
def Element : FieldType → Type
  | boolean => Bool
  | int32 => Int32
  | int64 | timestamp _ => Int64
  | float64 => Binary64
  | utf8 => String
  | binary => List UInt8
  | other _ => Unit

instance (type : FieldType) : DecidableEq type.Element :=
  match type with
  | boolean => inferInstanceAs (DecidableEq Bool)
  | int32 => inferInstanceAs (DecidableEq Int32)
  | int64 | timestamp _ => inferInstanceAs (DecidableEq Int64)
  | float64 => inferInstanceAs (DecidableEq Binary64)
  | utf8 => inferInstanceAs (DecidableEq String)
  | binary => inferInstanceAs (DecidableEq (List UInt8))
  | other _ => inferInstanceAs (DecidableEq Unit)

/-- An element as a cell. A timestamp is its count of milliseconds. -/
def cell : (type : FieldType) → Option type.Element → Value
  | _, none => .null
  | boolean, some flag => .boolean flag
  | int32, some number => .int32 number
  | int64, some number => .int64 number
  | float64, some number => .float64 number
  | utf8, some text => .utf8 text
  | binary, some bytes => .binary bytes
  | timestamp _, some millis => .timestamp millis
  | other _, some _ => .null

/-- A cell that is not missing has the column type of its array. -/
theorem type?_cell (type : FieldType) (element : Option type.Element) :
    type.cell element = .null ∨ (type.cell element).type? = type.columnType? := by
  cases element with
  | none => exact .inl rfl
  | some content =>
    cases type with
    | other spelling => exact .inl rfl
    | _ => exact .inr rfl

end FieldType

/-- An array as it is seen through the library that holds it. It can be taken for an array of some type
just if it is of that type, and its iterator, its test for missing elements and its access by position all
give these elements. -/
structure ColumnArray where
  type : FieldType
  elements : List (Option type.Element)
deriving DecidableEq

namespace ColumnArray

def length (array : ColumnArray) : Nat := array.elements.length

/-- The elements from `offset` on, as many as asked for. -/
def slice (array : ColumnArray) (offset count : Nat) : ColumnArray :=
  { array with elements := (array.elements.drop offset).take count }

def cells (array : ColumnArray) : List Value := array.elements.map array.type.cell

/-- The cells of an array of the declared type. -/
def cells? (declared : ColumnType) (array : ColumnArray) : Option (List Value) :=
  if array.type.columnType? = some declared then some array.cells else none

/-- The elements of an array of text. -/
def texts? : ColumnArray → Option (List (Option String))
  | ⟨.utf8, elements⟩ => some elements
  | _ => none

theorem texts?_eq_some_iff {array : ColumnArray} {texts : List (Option String)} :
    array.texts? = some texts ↔ array = ⟨.utf8, texts⟩ := by
  constructor
  · intro h
    obtain ⟨type, elements⟩ := array
    cases type with
    | utf8 => exact congrArg (ColumnArray.mk .utf8) (Option.some.inj h)
    | _ => cases h
  · rintro rfl
    rfl

theorem texts?_eq_none_iff {array : ColumnArray} : array.texts? = none ↔ array.type ≠ .utf8 := by
  obtain ⟨type, elements⟩ := array
  cases type with
  | utf8 => exact iff_of_false nofun (· rfl)
  | _ => exact iff_of_true rfl nofun

end ColumnArray

end TableScan
