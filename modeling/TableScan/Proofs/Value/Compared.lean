import TableScan.Proofs.Value

/-!
How two values are compared. The comparison of values looks at both sides at once and falls back from
one reading to another. Here its outcome is told by one rule for each reading that two values can have
in common, and one for values that have none. Laws of the comparison are proved rule by rule.
-/

namespace TableScan

namespace Value

/-- Values that cannot be read as one type, whichever it is. -/
def Unrelated (a b : Value) : Prop := ∀ t, readAs t a = none ∨ readAs t b = none

/-- The outcomes of a comparison. -/
inductive Compared : Value → Value → Option Ordering → Prop
  | booleans (x y : Bool) : Compared (boolean x) (boolean y) (some (compare x y))
  | texts (s t : String) : Compared (utf8 s) (utf8 t) (some (Utf8.compare s t))
  | bytes (s t : List UInt8) : Compared (binary s) (binary t) (some (compare s t))
  | integers {a b : Value} {m n : Int64} :
      a.asInt? = some m → b.asInt? = some n → Compared a b (some (compare m n))
  /-- A float on either side makes it a comparison of floats. -/
  | floats {a b : Value} {x y : Binary64} :
      a.type? = some .float64 ∨ b.type? = some .float64 →
      a.asFloat? = some x → b.asFloat? = some y → Compared a b (x.compare? y)
  | unrelated {a b : Value} : a.Unrelated b → Compared a b none

variable {a b : Value} {order : Option Ordering}

theorem unrelated_null_left (b : Value) : Unrelated null b := fun t => .inl (readAs_null t)

theorem Unrelated.symm (h : a.Unrelated b) : b.Unrelated a := fun t => (h t).symm

/-- Only a value whose type can be read as the one asked for is read. -/
theorem readAs_eq_none {t declared : ColumnType} (ha : a.type? = some declared)
    (h : declared.canReadAs t = false) : readAs t a = none := by
  cases a <;> cases ha <;> cases t <;>
    simp_all [readAs, asInt?, asFloat?, type?, ColumnType.canReadAs]

theorem unrelated_of_types {s t : ColumnType} (ha : a.type? = some s) (hb : b.type? = some t)
    (h : ∀ type ∈ ColumnType.all, s.canReadAs type = false ∨ t.canReadAs type = false) :
    a.Unrelated b := by
  intro type
  rcases h type (ColumnType.mem_all type) with hs | ht
  · exact .inl (readAs_eq_none ha hs)
  · exact .inr (readAs_eq_none hb ht)

/-- A float is related to nothing but what is read as one. -/
theorem unrelated_of_asFloat? (ha : a.type? = some .float64) (hb : b.asFloat? = none) :
    a.Unrelated b := by
  intro t
  cases t with
  | float64 =>
    refine .inr ?_
    rw [readAs, hb]
    rfl
  | _ => exact .inl (readAs_eq_none ha rfl)

theorem type?_eq_float (h : a.type? = some .float64) : ∃ x, a = float64 x := by
  cases a with
  | float64 x => exact ⟨x, rfl⟩
  | _ => cases h

/-- Every comparison follows one of the rules. The cases are those of both values. -/
theorem compared (a b : Value) : Compared a b (a.compare? b) := by
  cases b with
  | null =>
    rw [compare?_null_right]
    exact .unrelated (unrelated_null_left a).symm
  | float64 y =>
    rw [compare?_float_right]
    cases ha : a.asFloat? with
    | some x => exact .floats (.inr rfl) ha rfl
    | none => exact .unrelated (unrelated_of_asFloat? rfl ha).symm
  | boolean y =>
    cases a with
    | boolean x => exact .booleans x y
    | null => exact .unrelated (unrelated_null_left _)
    | _ => exact .unrelated (unrelated_of_types rfl rfl (by decide))
  | utf8 t =>
    cases a with
    | utf8 s => exact .texts s t
    | null => exact .unrelated (unrelated_null_left _)
    | _ => exact .unrelated (unrelated_of_types rfl rfl (by decide))
  | binary t =>
    cases a with
    | binary s => exact .bytes s t
    | null => exact .unrelated (unrelated_null_left _)
    | _ => exact .unrelated (unrelated_of_types rfl rfl (by decide))
  | int32 n | int64 n =>
    cases a with
    | int32 m | int64 m | timestamp m => exact .integers rfl rfl
    | float64 x => exact .floats (.inl rfl) rfl rfl
    | null => exact .unrelated (unrelated_null_left _)
    | _ => exact .unrelated (unrelated_of_types rfl rfl (by decide))
  | timestamp n =>
    cases a with
    | int32 m | int64 m | timestamp m => exact .integers rfl rfl
    | null => exact .unrelated (unrelated_null_left _)
    | _ => exact .unrelated (unrelated_of_types rfl rfl (by decide))

/-- The rules do not contradict each other. -/
theorem Compared.eq (h : Compared a b order) : a.compare? b = order := by
  cases h with
  | booleans x y => rfl
  | texts s t => rfl
  | bytes s t => rfl
  | integers ha hb => exact compare?_of_ints ha hb
  | floats hfloat ha hb =>
    rcases hfloat with htype | htype
    · obtain ⟨z, rfl⟩ := type?_eq_float htype
      cases ha
      rw [compare?_float_left, hb]
      rfl
    · obtain ⟨z, rfl⟩ := type?_eq_float htype
      cases hb
      rw [compare?_float_right, ha]
      rfl
  | unrelated h =>
    -- any other rule asks for a type that both can be read as
    have hcompared := compared a b
    generalize a.compare? b = other at hcompared ⊢
    cases hcompared with
    | booleans x y => rcases h .boolean with h | h <;> cases h
    | texts s t => rcases h .utf8 with h | h <;> cases h
    | bytes s t => rcases h .binary with h | h <;> cases h
    | integers ha hb =>
      have hint := h .int64
      rw [readAs, readAs, ha, hb] at hint
      rcases hint with h | h <;> cases h
    | floats _ ha hb =>
      have hfloat := h .float64
      rw [readAs, readAs, ha, hb] at hfloat
      rcases hfloat with h | h <;> cases h
    | unrelated _ => rfl

/-- With the sides exchanged the outcome is the reverse, by the same rule. -/
theorem Compared.swap (h : Compared a b order) : Compared b a (order.map Ordering.swap) := by
  cases h with
  | booleans x y =>
    rw [Option.map_some, ← Std.OrientedOrd.eq_swap]
    exact .booleans y x
  | texts s t =>
    rw [Option.map_some, Utf8.compare, ← Std.OrientedOrd.eq_swap]
    exact .texts t s
  | bytes s t =>
    rw [Option.map_some, ← Std.OrientedOrd.eq_swap]
    exact .bytes t s
  | integers ha hb =>
    rw [Option.map_some, ← Std.OrientedOrd.eq_swap]
    exact .integers hb ha
  | floats hfloat ha hb =>
    rw [← Binary64.compare?_swap]
    exact .floats hfloat.symm hb ha
  | unrelated h => exact .unrelated h.symm

theorem compare?_swap (a b : Value) : b.compare? a = (a.compare? b).map Ordering.swap :=
  (compared a b).swap.eq

end Value

end TableScan
