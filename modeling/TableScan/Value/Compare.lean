import TableScan.Utf8
import TableScan.Value

/-!
Order and equality of values. Integers of both widths and timestamps share one order; a float on
either side makes the comparison one of floats; everything else compares within its own type.
-/

namespace TableScan.Value

/-- The order of two values, if they have one. Text and binary data go byte by byte. A missing
value, a NaN and values of unrelated types have no place in any order. -/
def compare? : Value → Value → Option Ordering
  | boolean a, boolean b => some (compare a b)
  | utf8 a, utf8 b => some (Utf8.compare a b)
  | binary a, binary b => some (compare a b)
  | float64 x, b => b.asFloat?.bind fun y => x.compare? y
  | a, float64 y => a.asFloat?.bind fun x => x.compare? y
  | a, b => a.asInt?.bind fun m => b.asInt?.map fun n => compare m n

/-- Same type and same content. Numbers with a fraction are equal as numbers, so a NaN differs
from itself. -/
protected def beq : Value → Value → Bool
  | null, null => true
  | boolean a, boolean b => a == b
  | int32 a, int32 b => a == b
  | int64 a, int64 b => a == b
  | float64 a, float64 b => a == b
  | utf8 a, utf8 b => a == b
  | binary a, binary b => a == b
  | timestamp a, timestamp b => a == b
  | _, _ => false

instance : BEq Value := ⟨Value.beq⟩

@[simp] theorem compare?_null_left (v : Value) : compare? null v = none := by
  cases v <;> rfl

@[simp] theorem compare?_null_right (v : Value) : compare? v null = none := by
  cases v <;> rfl

end TableScan.Value
