import TableScan.Proofs.Binary64

/-!
The order of converted integers. The conversion may give two integers one double, but it never
exchanges them.
-/

namespace TableScan.Binary64

/-! ## Rounding -/

theorem le_roundShift (n k : Nat) : n / (1 <<< k) ≤ roundShift n k := by
  simp only [roundShift]
  split
  · exact Nat.le_refl _
  · exact Nat.le_succ _

theorem roundShift_mono {m n : Nat} (k : Nat) (h : m ≤ n) : roundShift m k ≤ roundShift n k := by
  have hquotient : m / (1 <<< k) ≤ n / (1 <<< k) := Nat.div_le_div_right h
  rcases Nat.eq_or_lt_of_le hquotient with heq | hlt
  · -- between the same two neighbours the greater remainder is the first to be rounded up
    have hm := Nat.div_add_mod m (1 <<< k)
    have hn := Nat.div_add_mod n (1 <<< k)
    rw [heq] at hm
    have hremainder : m % (1 <<< k) ≤ n % (1 <<< k) := by omega
    simp only [roundShift, heq]
    split <;> split <;> omega
  · calc roundShift m k ≤ m / (1 <<< k) + 1 := roundShift_le
      _ ≤ n / (1 <<< k) := hlt
      _ ≤ roundShift n k := le_roundShift n k

theorem significandOf_mono {m n : Nat} (e : Nat) (h : m ≤ n) :
    significandOf m e ≤ significandOf n e := by
  unfold significandOf
  split
  · rw [Nat.shiftLeft_eq, Nat.shiftLeft_eq]
    exact Nat.mul_le_mul_right _ h
  · exact roundShift_mono _ h

/-- The highest bit of the significand is set. -/
theorem le_significandOf {m : Nat} (h : m ≠ 0) : fieldWeight ≤ significandOf m m.log2 := by
  have hm : 2 ^ m.log2 ≤ m := Nat.log2_self_le h
  unfold significandOf
  split
  · rename_i hlog
    calc fieldWeight = 2 ^ m.log2 * 2 ^ (52 - m.log2) := by
          rw [← Nat.pow_add, Nat.add_sub_of_le hlog]
          rfl
      _ ≤ m <<< (52 - m.log2) := by
          rw [Nat.shiftLeft_eq]
          exact Nat.mul_le_mul_right _ hm
  · rename_i hlog
    refine Nat.le_trans ?_ (le_roundShift m (m.log2 - 52))
    rw [Nat.one_shiftLeft, Nat.le_div_iff_mul_le (Nat.two_pow_pos _)]
    calc fieldWeight * 2 ^ (m.log2 - 52) = 2 ^ m.log2 := by
          rw [show fieldWeight = 2 ^ 52 from rfl, ← Nat.pow_add]
          congr 1
          omega
      _ ≤ m := hm

theorem log2_mono {m n : Nat} (hm : m ≠ 0) (h : m ≤ n) : m.log2 ≤ n.log2 := by
  rw [Nat.le_log2 (by omega)]
  exact Nat.le_trans (Nat.log2_self_le hm) h

/-- A number with more bits has a higher exponent, and the carry out of the lower significand does not
reach beyond it. -/
theorem wordOfNat_mono {m n : Nat} (h : m ≤ n) : wordOfNat m ≤ wordOfNat n := by
  by_cases hm : m = 0
  · rw [hm]
    exact Nat.zero_le _
  · have hn : n ≠ 0 := by omega
    unfold wordOfNat
    rw [if_neg hm, if_neg hn]
    rcases Nat.eq_or_lt_of_le (log2_mono hm h) with hlog | hlog
    · rw [hlog]
      exact Nat.add_le_add_left (significandOf_mono _ h) _
    · calc (m.log2 + 1022) * fieldWeight + significandOf m m.log2
          ≤ (m.log2 + 1022) * fieldWeight + 2 * fieldWeight :=
            Nat.add_le_add_left (significandOf_le m) _
        _ = (m.log2 + 1 + 1022) * fieldWeight + fieldWeight := by simp only [fieldWeight]; omega
        _ ≤ (n.log2 + 1022) * fieldWeight + significandOf n n.log2 :=
            Nat.add_le_add (Nat.mul_le_mul_right _ (by omega)) (le_significandOf hn)

/-! ## Order -/

theorem isNegative_ofInt64 (n : Int64) : (ofInt64 n).isNegative = decide (n.toInt < 0) := by
  have hlt := wordOfNat_lt (natAbs_toInt_le n)
  simp only [ofInt64, isNegative, UInt64.toNat_ofNat', decide_eq_decide]
  simp only [infinityWord, signWeight, fieldWeight] at hlt ⊢
  split <;> omega

theorem key_ofInt64 (n : Int64) : (ofInt64 n).key =
    if n.toInt < 0 then -(wordOfNat n.toInt.natAbs : Int) else wordOfNat n.toInt.natAbs := by
  simp only [key, isNegative_ofInt64, magnitude_ofInt64, decide_eq_true_eq]

/-- The conversion keeps the order, though not strictly. -/
theorem key_ofInt64_mono {m n : Int64} (h : m ≤ n) : (ofInt64 m).key ≤ (ofInt64 n).key := by
  rw [Int64.le_iff_toInt_le] at h
  rw [key_ofInt64, key_ofInt64]
  by_cases hm : m.toInt < 0
  · by_cases hn : n.toInt < 0
    · have hword := wordOfNat_mono (m := n.toInt.natAbs) (n := m.toInt.natAbs) (by omega)
      rw [if_pos hm, if_pos hn]
      omega
    · rw [if_pos hm, if_neg hn]
      omega
  · have hn : ¬n.toInt < 0 := by omega
    have hword := wordOfNat_mono (m := m.toInt.natAbs) (n := n.toInt.natAbs) (by omega)
    rw [if_neg hm, if_neg hn]
    omega

variable {x y : Binary64}

theorem key_lt_of_compare? (h : x.compare? y = some .lt) : x.key < y.key := by
  unfold compare? at h
  split at h
  · cases h
  · exact Std.compare_eq_lt.mp (Option.some.inj h)

theorem key_eq_of_compare? (h : x.compare? y = some .eq) : x.key = y.key := by
  unfold compare? at h
  split at h
  · cases h
  · exact Std.compare_eq_iff_eq.mp (Option.some.inj h)

end TableScan.Binary64
