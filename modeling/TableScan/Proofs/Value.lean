import TableScan.Proofs.Binary64
import TableScan.Value.Compare

/-!
What can be compared. Two values that can be read as one type have an order, however that type
relates to their own, unless one of them is a NaN.
-/

namespace TableScan.Value

variable {a b v : Value}

def isNaN : Value → Bool
  | float64 x => x.isNaN
  | _ => false

@[simp] theorem isNaN_float (x : Binary64) : (float64 x).isNaN = x.isNaN := rfl

theorem isNaN_of_asInt? {n : Int64} (h : v.asInt? = some n) : v.isNaN = false := by
  cases v with
  | float64 x => cases h
  | _ => rfl

theorem isNaN_of_asFloat? {x : Binary64} (h : v.asFloat? = some x) : x.isNaN = v.isNaN := by
  cases v with
  | int32 n =>
    cases h
    exact Binary64.isNaN_ofInt64 n.toInt64
  | int64 n =>
    cases h
    exact Binary64.isNaN_ofInt64 n
  | float64 y =>
    cases h
    rfl
  | _ => cases h

/-- What is read as a number with a fraction is one or is an integer. -/
theorem float_or_int_of_asFloat? {x : Binary64} (h : v.asFloat? = some x) :
    v = float64 x ∨ ∃ n, v.asInt? = some n := by
  cases v with
  | int32 n => exact .inr ⟨_, rfl⟩
  | int64 n => exact .inr ⟨_, rfl⟩
  | float64 y => exact .inl (congrArg float64 (Option.some.inj h))
  | _ => cases h

theorem compare?_float_left (x : Binary64) (b : Value) :
    (float64 x).compare? b = b.asFloat?.bind fun y => x.compare? y := by
  cases b <;> rfl

theorem compare?_float_right (a : Value) (y : Binary64) :
    a.compare? (float64 y) = a.asFloat?.bind fun x => x.compare? y := by
  cases a <;> rfl

/-- Integers and timestamps have an order among each other. -/
theorem compare?_of_ints {m n : Int64} (ha : a.asInt? = some m) (hb : b.asInt? = some n) :
    a.compare? b = some (compare m n) := by
  cases a with
  | int32 _ | int64 _ | timestamp _ =>
    cases b with
    | int32 _ | int64 _ | timestamp _ =>
      cases ha
      cases hb
      rfl
    | _ => cases hb
  | _ => cases ha

theorem compare?_eq_none_iff_of_ints {m n : Int64} (ha : a.asInt? = some m)
    (hb : b.asInt? = some n) : a.compare? b = none ↔ a.isNaN = true ∨ b.isNaN = true := by
  rw [compare?_of_ints ha hb, isNaN_of_asInt? ha, isNaN_of_asInt? hb]
  simp

/-- Numbers have an order whether they are stored as integers or not. -/
theorem compare?_eq_none_iff_of_floats {x y : Binary64} (ha : a.asFloat? = some x)
    (hb : b.asFloat? = some y) : a.compare? b = none ↔ a.isNaN = true ∨ b.isNaN = true := by
  rcases float_or_int_of_asFloat? ha with rfl | ⟨m, hm⟩
  · rw [compare?_float_left, hb, Option.bind_some, Binary64.compare?_eq_none_iff,
      isNaN_of_asFloat? hb, isNaN_float]
  · rcases float_or_int_of_asFloat? hb with rfl | ⟨n, hn⟩
    · rw [compare?_float_right, ha, Option.bind_some, Binary64.compare?_eq_none_iff,
        isNaN_of_asFloat? ha, isNaN_float]
    · exact compare?_eq_none_iff_of_ints hm hn

/-- Values of one type have an order. -/
theorem compare?_eq_none_iff_of_type {t : ColumnType} (ha : a.type? = some t)
    (hb : b.type? = some t) : a.compare? b = none ↔ a.isNaN = true ∨ b.isNaN = true := by
  cases t with
  | float64 =>
    cases a <;> cases ha
    cases b <;> cases hb
    exact compare?_eq_none_iff_of_floats rfl rfl
  | int32 | int64 | timestamp =>
    cases a <;> cases ha
    cases b <;> cases hb
    exact compare?_eq_none_iff_of_ints rfl rfl
  | boolean | utf8 | binary =>
    cases a <;> cases ha
    cases b <;> cases hb
    simp [compare?, isNaN]

/-- Values that can be read as one type have an order unless one of them is a NaN. -/
theorem compare?_eq_none_iff {t : ColumnType} (ha : (readAs t a).isSome = true)
    (hb : (readAs t b).isSome = true) :
    a.compare? b = none ↔ a.isNaN = true ∨ b.isNaN = true := by
  cases t with
  | int64 =>
    simp only [readAs, Option.isSome_map] at ha hb
    obtain ⟨m, hm⟩ := Option.isSome_iff_exists.mp ha
    obtain ⟨n, hn⟩ := Option.isSome_iff_exists.mp hb
    exact compare?_eq_none_iff_of_ints hm hn
  | float64 =>
    simp only [readAs, Option.isSome_map] at ha hb
    obtain ⟨x, hx⟩ := Option.isSome_iff_exists.mp ha
    obtain ⟨y, hy⟩ := Option.isSome_iff_exists.mp hb
    exact compare?_eq_none_iff_of_floats hx hy
  | _ =>
    simp only [readAs, Option.isSome_ite] at ha hb
    exact compare?_eq_none_iff_of_type ha hb

end TableScan.Value
