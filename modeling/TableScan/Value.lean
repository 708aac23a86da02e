import TableScan.Binary64
import TableScan.ColumnType

/-!
Values: the cells of a row and the literals of a comparison. `readAs` is the one place where a
value changes its type.
-/

namespace TableScan

inductive Value where
  /-- A missing cell. -/
  | null
  | boolean (flag : Bool)
  | int32 (number : Int32)
  | int64 (number : Int64)
  | float64 (number : Binary64)
  | utf8 (text : String)
  | binary (bytes : List UInt8)
  | timestamp (millis : Int64)
deriving DecidableEq, Inhabited

namespace Value

def isNull : Value → Bool
  | null => true
  | _ => false

/-- A missing cell has no type. -/
def type? : Value → Option ColumnType
  | null => none
  | boolean _ => some .boolean
  | int32 _ => some .int32
  | int64 _ => some .int64
  | float64 _ => some .float64
  | utf8 _ => some .utf8
  | binary _ => some .binary
  | timestamp _ => some .timestamp

/-- The value as an integer; a timestamp is its millisecond count. -/
def asInt? : Value → Option Int64
  | int32 n => some n.toInt64
  | int64 n | timestamp n => some n
  | _ => none

/-- The value as a number with a fraction. Large integers are rounded, timestamps are not read. -/
def asFloat? : Value → Option Binary64
  | int32 n => some (.ofInt64 n.toInt64)
  | int64 n => some (.ofInt64 n)
  | float64 x => some x
  | _ => none

def asBool? : Value → Option Bool
  | boolean b => some b
  | _ => none

def asText? : Value → Option String
  | utf8 s => some s
  | _ => none

def asBytes? : Value → Option (List UInt8)
  | binary bytes => some bytes
  | _ => none

/-- Reads the value as a type. Integers widen, and a timestamp may be read as its count; all other
types are read only from values of that type. -/
def readAs (requested : ColumnType) (v : Value) : Option Value :=
  match requested with
  | .int64 => v.asInt?.map int64
  | .float64 => v.asFloat?.map float64
  | _ => if v.type? = some requested then some v else none

@[simp] theorem readAs_null (t : ColumnType) : readAs t null = none := by cases t <;> rfl

@[simp] theorem type?_eq_none {v : Value} : v.type? = none ↔ v = null := by
  cases v <;> simp [type?]

/-- What is read has the type that was asked for. -/
theorem type?_of_readAs {t : ColumnType} {v w : Value} (h : readAs t v = some w) :
    w.type? = some t := by
  cases t <;> cases v <;> simp_all [readAs, asInt?, asFloat?, type?] <;> subst h <;> rfl

/-- Reading never fails where the types allow it. -/
theorem readAs_isSome {t declared : ColumnType} {v : Value} (hv : v.type? = some declared)
    (h : declared.canReadAs t = true) : (readAs t v).isSome = true := by
  cases v <;> simp [type?] at hv <;> subst hv <;> cases t <;>
    simp_all [readAs, asInt?, asFloat?, type?, ColumnType.canReadAs]

end Value

end TableScan
