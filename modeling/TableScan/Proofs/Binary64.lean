import TableScan.Binary64

/-!
Integers as doubles. The word of a converted integer stays below that of the infinities, so the
conversion never gives a NaN.
-/

namespace TableScan.Binary64

theorem roundShift_le {n k : Nat} : roundShift n k ≤ n / (1 <<< k) + 1 := by
  simp only [roundShift]
  split
  · exact Nat.le_succ _
  · exact Nat.le_refl _

/-- Rounding carries at most into the bit above the significand. -/
theorem significandOf_le (m : Nat) : significandOf m m.log2 ≤ 2 * fieldWeight := by
  have hm := Nat.lt_log2_self (n := m)
  unfold significandOf
  split
  · rename_i h
    have hshift := Nat.mul_lt_mul_of_pos_right hm (Nat.two_pow_pos (52 - m.log2))
    rw [← Nat.pow_add, show m.log2 + 1 + (52 - m.log2) = 53 by omega] at hshift
    rw [Nat.shiftLeft_eq]
    exact Nat.le_of_lt hshift
  · rename_i h
    rw [show m.log2 + 1 = (m.log2 - 52) + 53 by omega, Nat.pow_add] at hm
    refine Nat.le_trans roundShift_le ?_
    rw [Nat.one_shiftLeft]
    exact Nat.succ_le_of_lt (Nat.div_lt_of_lt_mul hm)

theorem wordOfNat_lt {m : Nat} (h : m ≤ signWeight) : wordOfNat m < infinityWord := by
  unfold wordOfNat
  split
  · decide
  · rename_i hm
    have hlog : m.log2 < 64 := (Nat.log2_lt hm).mpr (Nat.lt_of_le_of_lt h (by decide))
    have hsignificand := significandOf_le m
    simp only [infinityWord, fieldWeight] at hsignificand ⊢
    omega

theorem natAbs_toInt_le (n : Int64) : n.toInt.natAbs ≤ signWeight := by
  have hlow := n.le_toInt
  have hhigh := n.toInt_lt
  simp only [signWeight]
  omega

/-- The sign bit is kept out of the magnitude. -/
theorem magnitude_ofInt64 (n : Int64) : (ofInt64 n).magnitude = wordOfNat n.toInt.natAbs := by
  have hlt := wordOfNat_lt (natAbs_toInt_le n)
  simp only [ofInt64, magnitude, UInt64.toNat_ofNat']
  simp only [infinityWord, signWeight, fieldWeight] at hlt ⊢
  split <;> omega

@[simp] theorem isNaN_ofInt64 (n : Int64) : (ofInt64 n).isNaN = false := by
  rw [isNaN, magnitude_ofInt64, decide_eq_false_iff_not, Nat.not_lt]
  exact Nat.le_of_lt (wordOfNat_lt (natAbs_toInt_le n))

/-- Only a NaN has no place in the order. -/
theorem compare?_eq_none_iff {x y : Binary64} :
    x.compare? y = none ↔ x.isNaN = true ∨ y.isNaN = true := by
  rw [compare?, ← Bool.or_eq_true]
  split
  · rename_i h
    exact iff_of_true rfl h
  · rename_i h
    exact iff_of_false nofun h

theorem compare?_swap (x y : Binary64) : y.compare? x = (x.compare? y).map Ordering.swap := by
  unfold compare?
  rw [Bool.or_comm]
  split
  · rfl
  · exact congrArg some Std.OrientedOrd.eq_swap

end TableScan.Binary64
