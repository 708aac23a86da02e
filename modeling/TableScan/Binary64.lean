/-!
IEEE 754 double-precision numbers, held as their 64-bit words. Order, equality and the conversion
from integers are integer arithmetic on the word, so every law about them can be proved. The key
of a number is its magnitude word under its sign; numbers compare as their keys do.
-/

namespace TableScan

structure Binary64 where
  bits : UInt64
deriving DecidableEq, Inhabited

namespace Binary64

/-- The weight of the sign bit. -/
def signWeight : Nat := 0x8000000000000000

/-- The weight of the lowest exponent bit. Fractions are smaller. -/
def fieldWeight : Nat := 0x10000000000000

/-- The word without its sign bit. Larger magnitudes have larger words. -/
def magnitude (x : Binary64) : Nat := x.bits.toNat % signWeight

def isNegative (x : Binary64) : Bool := decide (signWeight ≤ x.bits.toNat)

/-- The magnitude word of both infinities; every larger one is a NaN. -/
def infinityWord : Nat := 2047 * fieldWeight

def isNaN (x : Binary64) : Bool := decide (infinityWord < x.magnitude)

def isInfinite (x : Binary64) : Bool := x.magnitude == infinityWord

/-- Sign and magnitude as one integer. Both zeros have key 0. -/
def key (x : Binary64) : Int :=
  if x.isNegative then -(x.magnitude : Int) else (x.magnitude : Int)

/-- The numeric order, which leaves a NaN without a place. -/
def compare? (x y : Binary64) : Option Ordering :=
  if x.isNaN || y.isNaN then none else some (compare x.key y.key)

/-- Numeric equality: the two zeros are equal and a NaN equals nothing. -/
protected def beq (x y : Binary64) : Bool := x.compare? y == some .eq

instance : BEq Binary64 := ⟨Binary64.beq⟩

/-- `n` with its lowest `k` bits rounded away. The result is the nearest integer, and a half goes to
the even neighbour. -/
def roundShift (n k : Nat) : Nat :=
  let unit := 1 <<< k
  let quotient := n / unit
  let twice := 2 * (n % unit)
  if twice < unit ∨ twice = unit ∧ quotient % 2 = 0 then quotient else quotient + 1

/-- The 53-bit significand of a positive integer whose highest bit is bit `e`. Rounding may carry
into bit 53, which the exponent field then absorbs. -/
def significandOf (m e : Nat) : Nat :=
  if e ≤ 52 then m <<< (52 - e) else roundShift m (e - 52)

/-- The magnitude word of the number nearest to `m`. -/
def wordOfNat (m : Nat) : Nat :=
  if m = 0 then 0 else (m.log2 + 1022) * fieldWeight + significandOf m m.log2

/-- The nearest number; integers beyond 53 bits lose their lowest digits. -/
def ofInt64 (n : Int64) : Binary64 :=
  let word := wordOfNat n.toInt.natAbs
  ⟨UInt64.ofNat (if n.toInt < 0 then signWeight + word else word)⟩

def nan : Binary64 := ⟨0x7FF8000000000000⟩

end Binary64

end TableScan
