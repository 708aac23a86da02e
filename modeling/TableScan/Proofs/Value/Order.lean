import TableScan.Proofs.Predicate.Reads
import TableScan.Proofs.Value.Compared

/-!
The order of values. Comparison is the same read from either side, agrees with equality within a type,
and is a total order on each type but that of floats, in which a NaN has no place. Integers of both
widths and timestamps share one order, that of their integer payloads. So of the six operators either
none holds of a cell and a literal, or they split up the three orderings as they should.
-/

namespace TableScan

theorem compare_toInt (m n : Int64) : compare m n = compare m.toInt n.toInt := by
  simp only [compare, compareOfLessAndEq, Int64.lt_iff_toInt_lt, ← Int64.toInt_inj]

theorem toInt64_inj {m n : Int32} : m.toInt64 = n.toInt64 ↔ m = n := by
  rw [← Int64.toInt_inj, Int32.toInt_toInt64, Int32.toInt_toInt64, Int32.toInt_inj]

/-- Lists of bytes compare by the first byte in which they differ; a list comes after its prefixes. -/
theorem compare_bytes_eq_lt {s t : List UInt8} : compare s t = .lt ↔ s < t := by
  induction s generalizing t with
  | nil => cases t <;> simp
  | cons a s ih =>
    cases t with
    | nil => simp
    | cons b t =>
      rw [List.compare_cons_cons, Ordering.then_eq_lt, ih, List.cons_lt_cons_iff,
        Std.compare_eq_lt, Std.compare_eq_iff_eq]

namespace Value

variable {a b c : Value}

/-! ## Symmetry and equality -/

/-- A value is equal to itself, since its order to itself is its own reverse. -/
theorem compare?_self (hnull : a ≠ null) (hnan : a.isNaN = false) : a.compare? a = some .eq := by
  obtain ⟨t, ht⟩ := Option.ne_none_iff_exists'.mp (mt type?_eq_none.mp hnull)
  have hsome : a.compare? a ≠ none := by
    rw [Ne, compare?_eq_none_iff_of_type ht ht]
    simp [hnan]
  obtain ⟨order, horder⟩ := Option.ne_none_iff_exists'.mp hsome
  have hswap := compare?_swap a a
  rw [horder, Option.map_some, Option.some.injEq] at hswap
  cases order with
  | eq => exact horder
  | lt => cases hswap
  | gt => cases hswap

theorem compare?_self_of_unordered (h : a = null ∨ a.isNaN = true) : a.compare? a = none := by
  rcases h with rfl | hnan
  · rfl
  · cases a with
    | float64 x =>
      rw [compare?_float_left]
      exact Binary64.compare?_eq_none_iff.mpr (.inl hnan)
    | _ => cases hnan

/-- Within a type, values have equal places just if they are equal. -/
theorem compare?_eq_iff {t : ColumnType} (ha : a.type? = some t) (hb : b.type? = some t) :
    a.compare? b = some .eq ↔ (a == b) = true := by
  cases t with
  | boolean =>
    cases a <;> cases ha
    cases b <;> cases hb
    rename_i x y
    show some (compare x y) = some .eq ↔ (x == y) = true
    rw [Option.some.injEq, Std.compare_eq_iff_eq, beq_iff_eq]
  | int32 =>
    cases a <;> cases ha
    cases b <;> cases hb
    rename_i m n
    show some (compare m.toInt64 n.toInt64) = some .eq ↔ (m == n) = true
    rw [Option.some.injEq, Std.compare_eq_iff_eq, beq_iff_eq, toInt64_inj]
  | int64 | timestamp =>
    cases a <;> cases ha
    cases b <;> cases hb
    rename_i m n
    show some (compare m n) = some .eq ↔ (m == n) = true
    rw [Option.some.injEq, Std.compare_eq_iff_eq, beq_iff_eq]
  | float64 =>
    cases a <;> cases ha
    cases b <;> cases hb
    rename_i x y
    show x.compare? y = some .eq ↔ (x.compare? y == some .eq) = true
    rw [beq_iff_eq]
  | utf8 =>
    cases a <;> cases ha
    cases b <;> cases hb
    rename_i s t
    show some (Utf8.compare s t) = some .eq ↔ (s == t) = true
    rw [Option.some.injEq, Utf8.compare_eq_iff, beq_iff_eq]
  | binary =>
    cases a <;> cases ha
    cases b <;> cases hb
    rename_i s t
    show some (compare s t) = some .eq ↔ (s == t) = true
    rw [Option.some.injEq, Std.compare_eq_iff_eq, beq_iff_eq]

/-! ## Orders -/

/-- Whether two values have an order in which the first does not come after the second. -/
def AtMost (a b : Value) : Prop := ∃ order, a.compare? b = some order ∧ order.isLE = true

/-- Values of which any two have an order, in which some may share a place. -/
structure TotallyPreordered (among : Value → Prop) : Prop where
  total : ∀ a b, among a → among b → a.AtMost b ∨ b.AtMost a
  trans : ∀ a b c, among a → among b → among c → a.AtMost b → b.AtMost c → a.AtMost c

/-- Values of which any two have an order, each with a place of its own. -/
structure TotallyOrdered (among : Value → Prop) : Prop extends TotallyPreordered among where
  antisymm : ∀ a b, among a → among b → a.AtMost b → b.AtMost a → a = b

section Key

variable {κ : Type} [Ord κ] {among : Value → Prop} {key : Value → Option κ}

/-- Values are compared by a key that they have. -/
structure ComparedBy (among : Value → Prop) (key : Value → Option κ) : Prop where
  has : ∀ a, among a → ∃ x, key a = some x
  compare : ∀ {a b x y}, key a = some x → key b = some y → a.compare? b = some (compare x y)

theorem ComparedBy.atMost_iff (h : ComparedBy among key) {x y : κ} (ha : key a = some x)
    (hb : key b = some y) : a.AtMost b ↔ (Ord.compare x y).isLE = true := by
  constructor
  · intro hle
    obtain ⟨order, horder, hle⟩ := hle
    rw [h.compare ha hb, Option.some.injEq] at horder
    rw [horder]
    exact hle
  · intro hle
    exact ⟨Ord.compare x y, h.compare ha hb, hle⟩

variable [Std.TransOrd κ]

theorem ComparedBy.totallyPreordered (h : ComparedBy among key) : TotallyPreordered among where
  total a b ha hb := by
    obtain ⟨x, hx⟩ := h.has a ha
    obtain ⟨y, hy⟩ := h.has b hb
    rw [h.atMost_iff hx hy, h.atMost_iff hy hx, Std.OrientedOrd.eq_swap (a := y) (b := x)]
    cases Ord.compare x y with
    | lt => exact .inl rfl
    | eq => exact .inl rfl
    | gt => exact .inr rfl
  trans a b c ha hb hc hab hbc := by
    obtain ⟨x, hx⟩ := h.has a ha
    obtain ⟨y, hy⟩ := h.has b hb
    obtain ⟨z, hz⟩ := h.has c hc
    rw [h.atMost_iff hx hy] at hab
    rw [h.atMost_iff hy hz] at hbc
    rw [h.atMost_iff hx hz]
    exact Std.TransOrd.isLE_trans hab hbc

/-- Where the key tells the values apart, they share no place. -/
theorem ComparedBy.totallyOrdered [Std.LawfulEqOrd κ] (h : ComparedBy among key)
    (hkey : ∀ a b x, among a → among b → key a = some x → key b = some x → a = b) :
    TotallyOrdered among where
  toTotallyPreordered := h.totallyPreordered
  antisymm a b ha hb hab hba := by
    obtain ⟨x, hx⟩ := h.has a ha
    obtain ⟨y, hy⟩ := h.has b hb
    rw [h.atMost_iff hx hy] at hab
    rw [h.atMost_iff hy hx] at hba
    have heq : x = y := Std.LawfulEqOrd.eq_of_compare (Std.OrientedCmp.isLE_antisymm hab hba)
    rw [heq] at hx
    exact hkey a b y ha hb hx hy

end Key

theorem comparedBy_asBool? : ComparedBy (fun v => v.type? = some .boolean) asBool? where
  has a ha := by
    cases a <;> cases ha
    exact ⟨_, rfl⟩
  compare {a b x y} ha hb := by
    cases a <;> cases ha
    cases b <;> cases hb
    rfl

/-- Text compares by its bytes, which tell texts apart. -/
theorem comparedBy_bytes :
    ComparedBy (fun v => v.type? = some .utf8) fun v => v.asText?.map Utf8.bytes where
  has a ha := by
    cases a <;> cases ha
    exact ⟨_, rfl⟩
  compare {a b x y} ha hb := by
    cases a <;> cases ha
    cases b <;> cases hb
    rfl

theorem comparedBy_asBytes? : ComparedBy (fun v => v.type? = some .binary) asBytes? where
  has a ha := by
    cases a <;> cases ha
    exact ⟨_, rfl⟩
  compare {a b x y} ha hb := by
    cases a <;> cases ha
    cases b <;> cases hb
    rfl

theorem comparedBy_asInt? {t : ColumnType} (h : ∀ v : Value, v.type? = some t → ∃ n, v.asInt? = some n) :
    ComparedBy (fun v => v.type? = some t) asInt? where
  has := h
  compare := compare?_of_ints

/-- Within a type, values are told apart by the integer that they are read as. -/
theorem eq_of_asInt? {t : ColumnType} {n : Int64} (ha : a.type? = some t) (hb : b.type? = some t)
    (hm : a.asInt? = some n) (hn : b.asInt? = some n) : a = b := by
  have heq := hm.trans hn.symm
  cases a with
  | int32 m =>
    cases ha
    cases b <;> cases hb
    exact congrArg int32 (toInt64_inj.mp (Option.some.inj heq))
  | int64 m =>
    cases ha
    cases b <;> cases hb
    exact congrArg int64 (Option.some.inj heq)
  | timestamp m =>
    cases ha
    cases b <;> cases hb
    exact congrArg timestamp (Option.some.inj heq)
  | _ => cases hm

/-- Each type is ordered by its payloads, text by its bytes. Only floats are not. -/
theorem totallyOrdered_of_type {t : ColumnType} (h : t ≠ .float64) :
    TotallyOrdered fun v => v.type? = some t := by
  cases t with
  | float64 => contradiction
  | boolean =>
    refine comparedBy_asBool?.totallyOrdered fun a b x _ _ hx hy => ?_
    cases a <;> cases hx
    cases b <;> cases hy
    rfl
  | utf8 =>
    refine comparedBy_bytes.totallyOrdered fun a b x ha hb hx hy => ?_
    cases a <;> cases ha
    cases b <;> cases hb
    have hbytes := Option.some.inj (hx.trans hy.symm)
    exact congrArg utf8 (Utf8.bytes_injective hbytes)
  | binary =>
    refine comparedBy_asBytes?.totallyOrdered fun a b x _ _ hx hy => ?_
    cases a <;> cases hx
    cases b <;> cases hy
    rfl
  | int32 | int64 | timestamp =>
    refine (comparedBy_asInt? fun v hv => ?_).totallyOrdered fun a b n => eq_of_asInt?
    cases v <;> cases hv
    exact ⟨_, rfl⟩

/-- The integer that a value holds, whatever its width. -/
def payload? : Value → Option Int
  | int32 n => some n.toInt
  | int64 n | timestamp n => some n.toInt
  | _ => none

theorem payload?_eq (v : Value) : v.payload? = v.asInt?.map Int64.toInt := by
  cases v with
  | int32 n => exact congrArg some n.toInt_toInt64.symm
  | _ => rfl

/-- Integers of both widths and timestamps compare as their payloads. -/
theorem comparedBy_payload? : ComparedBy (fun v => v.payload?.isSome = true) payload? where
  has _ := Option.isSome_iff_exists.mp
  compare {a b x y} ha hb := by
    rw [payload?_eq] at ha hb
    obtain ⟨m, hm, rfl⟩ := Option.map_eq_some_iff.mp ha
    obtain ⟨n, hn, rfl⟩ := Option.map_eq_some_iff.mp hb
    rw [compare?_of_ints hm hn, compare_toInt]

end Value

/-! ## Operators -/

namespace Predicate

/-- Of a cell and a literal that have an order, one of three operators holds and the others are the
negations of these. -/
theorem comparison_outcomes (row : Row) (column : ColumnRef) (literal : Value) :
    let holds (op : Operator) : Bool := (comparison column op literal).holds row
    (∀ op, holds op = false) ∨
      [Operator.lt, .eq, .gt].countP holds = 1 ∧ holds .neq = !holds .eq ∧
        holds .geq = !holds .lt ∧ holds .leq = !holds .gt := by
  intro holds
  have hholds : ∀ op, holds op =
      ((row.readOrNull column.index).compare? literal).any op.accepts := by
    intro op
    exact congrArg Verdict.holds (evaluate_comparison column op literal)
  cases horder : (row.readOrNull column.index).compare? literal with
  | none =>
    refine .inl fun op => ?_
    rw [hholds, horder]
    rfl
  | some order =>
    have haccepts : holds = fun op => op.accepts order := by
      funext op
      rw [hholds, horder]
      rfl
    rw [haccepts]
    right
    cases order with
    | lt => exact ⟨rfl, rfl, rfl, rfl⟩
    | eq => exact ⟨rfl, rfl, rfl, rfl⟩
    | gt => exact ⟨rfl, rfl, rfl, rfl⟩

end Predicate

/-- Comparison is lawful across all kinds of values. Exchanging the sides reverses it, also where there
is no order. A value has an order to itself, and is equal, unless it is missing or a NaN. Within a type,
equal in order is equal. Each type but that of floats is totally ordered, text and binary data byte by
byte, and all integers and timestamps together are ordered by their payloads. So of a row, a column and
a literal no operator holds, or just one of less, equal and greater does, and the other three are their
negations. -/
theorem Value.comparison_lawful :
    (∀ a b : Value, b.compare? a = (a.compare? b).map Ordering.swap) ∧
      (∀ a : Value, (a ≠ .null → a.isNaN = false → a.compare? a = some .eq) ∧
        (a = .null ∨ a.isNaN = true → a.compare? a = none)) ∧
      (∀ (a b : Value) (t : ColumnType), a.type? = some t → b.type? = some t →
        (a.compare? b = some .eq ↔ (a == b) = true)) ∧
      (∀ t ≠ ColumnType.float64, TotallyOrdered fun v => v.type? = some t) ∧
      (∀ s t : String,
        (utf8 s).compare? (utf8 t) = some .lt ↔ Utf8.bytes s < Utf8.bytes t) ∧
      (∀ s t : List UInt8, (binary s).compare? (binary t) = some .lt ↔ s < t) ∧
      TotallyPreordered (fun v => v.payload?.isSome = true) ∧
      (∀ (a b : Value) (m n : Int), a.payload? = some m → b.payload? = some n →
        a.compare? b = some (compare m n)) ∧
      ∀ (row : Row) (column : ColumnRef) (literal : Value),
        let holds (op : Operator) : Bool := (Predicate.comparison column op literal).holds row
        (∀ op, holds op = false) ∨
          [Operator.lt, .eq, .gt].countP holds = 1 ∧ holds .neq = !holds .eq ∧
            holds .geq = !holds .lt ∧ holds .leq = !holds .gt := by
  refine ⟨compare?_swap, fun a => ⟨compare?_self, compare?_self_of_unordered⟩,
    fun a b t => compare?_eq_iff, fun t => totallyOrdered_of_type, ?_, ?_,
    comparedBy_payload?.totallyPreordered, fun a b m n => comparedBy_payload?.compare,
    Predicate.comparison_outcomes⟩
  · intro s t
    show some (compare (Utf8.bytes s) (Utf8.bytes t)) = some .lt ↔ _
    rw [Option.some.injEq, compare_bytes_eq_lt]
  · intro s t
    show some (compare s t) = some .lt ↔ _
    rw [Option.some.injEq, compare_bytes_eq_lt]

/-- A timestamp and an integer share a place without being equal; a capital comes before a small
letter. -/
theorem Value.comparison_lawful_mixed :
    (timestamp 7).compare? (int32 7) = some .eq ∧ (timestamp 7 == int32 7) = false ∧
      (float64 .nan).compare? (float64 .nan) = none ∧
      (utf8 "Z").compare? (utf8 "a") = some .lt ∧
      ((int32 5).AtMost (int32 3) ∨ (int32 3).AtMost (int32 5)) := by
  obtain ⟨-, hself, -, hordered, htext, -, -, hpayload, -⟩ := comparison_lawful
  have hsame : (timestamp 7).compare? (int32 7) = some (compare 7 7) := hpayload _ _ 7 7 rfl rfl
  refine ⟨hsame, rfl, ?_, ?_, ?_⟩
  · exact (hself (float64 .nan)).2 (.inr rfl)
  · exact (htext "Z" "a").mpr (by decide +kernel)
  · exact (hordered .int32 (by decide)).total (int32 5) (int32 3) rfl rfl

end TableScan
