import Mathlib.Logic.Relation
import TableScan.Proofs.Binary64.Monotone
import TableScan.Proofs.Value.Order

/-!
Strict comparison. Integers compare exactly with integers but as doubles with doubles, and timestamps
not with doubles at all, so no single order is behind the comparison. Still no chain of values, each
strictly before the next, returns to where it began, and its ends compare as the chain says wherever
they compare.
-/

namespace TableScan.Value

/-- The strict comparison. -/
def Precedes (a b : Value) : Prop := a.compare? b = some .lt

/-- The key of the double nearest to a number. -/
def nearest : Value → Int
  | float64 x => x.key
  | int32 n => (Binary64.ofInt64 n.toInt64).key
  | int64 n | timestamp n => (Binary64.ofInt64 n).key
  | _ => 0

/-- A place that strict comparison respects. Integers with one nearest double keep their order behind
it. -/
def place : Value → List Int
  | null => []
  | boolean b => [if b then 1 else 0]
  | int32 n => [nearest (int32 n), n.toInt]
  | int64 n => [nearest (int64 n), n.toInt]
  | timestamp n => [nearest (timestamp n), n.toInt]
  | float64 x => [nearest (float64 x)]
  | utf8 s => (Utf8.bytes s).map fun byte => (byte.toNat : Int)
  | binary bytes => bytes.map fun byte => (byte.toNat : Int)

variable {a b c : Value} {x : Binary64} {m : Int64}

theorem nearest_of_asInt? (h : a.asInt? = some m) : a.nearest = (Binary64.ofInt64 m).key := by
  cases a with
  | int32 n | int64 n | timestamp n =>
    cases h
    rfl
  | _ => cases h

theorem place_of_asInt? (h : a.asInt? = some m) : a.place = [a.nearest, m.toInt] := by
  cases a with
  | int32 n =>
    cases h
    rw [Int32.toInt_toInt64]
    rfl
  | int64 n | timestamp n =>
    cases h
    rfl
  | _ => cases h

theorem nearest_of_asFloat? (h : a.asFloat? = some x) : a.nearest = x.key := by
  cases a with
  | int32 n | int64 n | float64 y =>
    cases h
    rfl
  | _ => cases h

theorem place_of_asFloat? (h : a.asFloat? = some x) : ∃ rest, a.place = a.nearest :: rest := by
  cases a with
  | int32 n | int64 n | float64 y => exact ⟨_, rfl⟩
  | _ => cases h

theorem type?_ne_float (h : a.asInt? = some m) : a.type? ≠ some .float64 := by
  intro hfloat
  obtain ⟨x, rfl⟩ := type?_eq_float hfloat
  cases h

/-! ## One step -/

/-- What holds of the ends of a chain, whatever the values in between. -/
structure Leads (a b : Value) : Prop where
  place : a.place < b.place
  nearest : a.nearest ≤ b.nearest
  /-- A double at an end is told apart by its key already. -/
  float : a.type? = some .float64 ∨ b.type? = some .float64 → a.nearest < b.nearest

theorem leads_of_type (hplace : a.place < b.place) (hnearest : a.nearest ≤ b.nearest)
    (ha : a.type? ≠ some .float64) (hb : b.type? ≠ some .float64) : Leads a b where
  place := hplace
  nearest := hnearest
  float h := (h.elim ha hb).elim

theorem map_toNat_lt {s t : List UInt8} (h : compare s t = .lt) :
    (s.map fun byte => (byte.toNat : Int)) < t.map fun byte => (byte.toNat : Int) := by
  refine List.map_lt (fun x y hxy => ?_) (compare_bytes_eq_lt.mp h)
  exact Int.ofNat_lt.mpr (UInt8.lt_iff_toNat_lt.mp hxy)

theorem Compared.leads {order : Option Ordering} (h : Compared a b order)
    (hlt : order = some .lt) : Leads a b := by
  cases h with
  | booleans x y =>
    refine leads_of_type ?_ (Int.le_refl 0) (by simp [type?]) (by simp [type?])
    revert x y
    decide
  | texts s t =>
    exact leads_of_type (map_toNat_lt (Option.some.inj hlt)) (Int.le_refl 0) (by simp [type?])
      (by simp [type?])
  | bytes s t =>
    exact leads_of_type (map_toNat_lt (Option.some.inj hlt)) (Int.le_refl 0) (by simp [type?])
      (by simp [type?])
  | @integers _ _ m n hm hn =>
    have hmn : m < n := Std.compare_eq_lt.mp (Option.some.inj hlt)
    have hnearest : a.nearest ≤ b.nearest := by
      rw [nearest_of_asInt? hm, nearest_of_asInt? hn]
      exact Binary64.key_ofInt64_mono (Int64.le_of_lt hmn)
    refine leads_of_type ?_ hnearest (type?_ne_float hm) (type?_ne_float hn)
    rw [place_of_asInt? hm, place_of_asInt? hn, List.cons_lt_cons_iff]
    -- integers with one nearest double differ behind it
    rcases Int.lt_or_eq_of_le hnearest with hdouble | hdouble
    · exact .inl hdouble
    · exact .inr ⟨hdouble, List.cons_lt_cons_iff.mpr (.inl (Int64.lt_iff_toInt_lt.mp hmn))⟩
  | @floats _ _ x y _ hx hy =>
    have hnearest : a.nearest < b.nearest := by
      rw [nearest_of_asFloat? hx, nearest_of_asFloat? hy]
      exact Binary64.key_lt_of_compare? hlt
    obtain ⟨restA, hplaceA⟩ := place_of_asFloat? hx
    obtain ⟨restB, hplaceB⟩ := place_of_asFloat? hy
    refine ⟨?_, Int.le_of_lt hnearest, fun _ => hnearest⟩
    rw [hplaceA, hplaceB, List.cons_lt_cons_iff]
    exact .inl hnearest
  | unrelated _ => cases hlt

/-- Values that are equal in order share a place, but for a double, which only shares the key of the
nearest one. -/
theorem Compared.tied {order : Option Ordering} (h : Compared a b order) (heq : order = some .eq) :
    a.place = b.place ∨
      (a.type? = some .float64 ∨ b.type? = some .float64) ∧ a.nearest = b.nearest := by
  cases h with
  | booleans x y => exact .inl (by rw [Std.compare_eq_iff_eq.mp (Option.some.inj heq)])
  | texts s t => exact .inl (by rw [Utf8.compare_eq_iff.mp (Option.some.inj heq)])
  | bytes s t => exact .inl (by rw [Std.compare_eq_iff_eq.mp (Option.some.inj heq)])
  | integers hm hn =>
    refine .inl ?_
    rw [place_of_asInt? hm, place_of_asInt? hn, nearest_of_asInt? hm, nearest_of_asInt? hn,
      Std.compare_eq_iff_eq.mp (Option.some.inj heq)]
  | floats hfloat hx hy =>
    refine .inr ⟨hfloat, ?_⟩
    rw [nearest_of_asFloat? hx, nearest_of_asFloat? hy]
    exact Binary64.key_eq_of_compare? heq
  | unrelated _ => cases heq

/-! ## Chains -/

theorem Leads.trans (hab : Leads a b) (hbc : Leads b c) : Leads a c where
  place := List.lt_trans hab.place hbc.place
  nearest := Int.le_trans hab.nearest hbc.nearest
  float h := by
    rcases h with ha | hc
    · exact Int.lt_of_lt_of_le (hab.float (.inl ha)) hbc.nearest
    · exact Int.lt_of_le_of_lt hab.nearest (hbc.float (.inr hc))

theorem leads_of_chain (h : Relation.TransGen Precedes a b) : Leads a b := by
  induction h with
  | single hstep => exact (compared _ _).leads hstep
  | tail _ hstep ih => exact ih.trans ((compared _ _).leads hstep)

/-- The ends of a chain are neither tied nor the other way around. -/
theorem Leads.precedes (h : Leads a b) (hab : a.compare? b ≠ none) : a.Precedes b := by
  obtain ⟨order, horder⟩ := Option.ne_none_iff_exists'.mp hab
  cases order with
  | lt => exact horder
  | eq =>
    rcases (compared a b).tied horder with hplace | ⟨hfloat, hnearest⟩
    · exact absurd (hplace ▸ h.place) (List.lt_irrefl _)
    · exact absurd hnearest (Int.ne_of_lt (h.float hfloat))
  | gt =>
    have hba : b.Precedes a := by
      unfold Precedes
      rw [compare?_swap, horder]
      rfl
    have hplace := ((compared b a).leads hba).place
    exact absurd (List.lt_trans h.place hplace) (List.lt_irrefl _)

/-- Strict comparison has no cycles. Where a value precedes a second and that a third, it precedes the
third as soon as the two compare at all. So do the ends of any chain, whatever kinds of values are on
it, and none ends where it began. -/
theorem precedes_acyclic :
    (∀ a b c : Value, a.compare? b = some .lt → b.compare? c = some .lt → a.compare? c ≠ none →
        a.compare? c = some .lt) ∧
      (∀ a b : Value, Relation.TransGen Precedes a b → a.compare? b ≠ none → a.Precedes b) ∧
      ∀ a : Value, ¬Relation.TransGen Precedes a a := by
  refine ⟨?_, fun a b h => (leads_of_chain h).precedes, ?_⟩
  · intro a b c hab hbc
    exact (leads_of_chain (.tail (.single hab) hbc)).precedes
  · intro a h
    exact List.lt_irrefl _ (leads_of_chain h).place

/-- From 2 ^ 53 on several integers compare equal to one double, and a smaller double still precedes each
of them. A timestamp, an integer and a double in turn show that the ends may not compare. -/
theorem precedes_acyclic_lossy :
    let below := float64 ⟨0x433FFFFFFFFFFFFF⟩
    let double := float64 ⟨0x4340000000000000⟩
    let whole := int64 9007199254740992
    let following := int64 9007199254740993
    double.compare? whole = some .eq ∧ double.compare? following = some .eq ∧
      below.compare? following = some .lt ∧ (¬Relation.TransGen Precedes below below) ∧
      (timestamp 1).compare? (int32 2) = some .lt ∧
      (int32 2).compare? (float64 ⟨0x4008000000000000⟩) = some .lt ∧
      (timestamp 1).compare? (float64 ⟨0x4008000000000000⟩) = none := by
  intro below double whole following
  have hfirst : below.compare? whole = some .lt := by decide +kernel
  have hsecond : whole.compare? following = some .lt := by decide +kernel
  have hends : below.compare? following ≠ none := by decide +kernel
  refine ⟨by decide +kernel, by decide +kernel, ?_, ?_, rfl, by decide +kernel, rfl⟩
  · exact precedes_acyclic.1 below whole following hfirst hsecond hends
  · exact precedes_acyclic.2.2 below

end TableScan.Value
