import TableScan.Binary64

/-!
Shortest decimals. Of all decimals that a finite number is the nearest double to, `shortest` picks
one with the fewest digits, and of those the one closest to the number. All arithmetic is exact.
-/

namespace TableScan

/-- The number `digits * 10 ^ exponent`. -/
structure Decimal where
  digits : Nat
  exponent : Int
deriving DecidableEq

namespace Binary64

/-- A positive number together with the reals that round to it, all counted in units of
`2 ^ exponent`. The ends belong to the interval when the significand is even. -/
structure Neighbourhood where
  low : Nat
  value : Nat
  high : Nat
  closed : Bool
  exponent : Int
deriving DecidableEq

/-- The reals that round to a finite number other than zero, its sign ignored. Below a power of
two the numbers lie twice as dense, so the lower half of the interval shrinks. -/
def neighbourhood (x : Binary64) : Neighbourhood :=
  let field := x.magnitude / fieldWeight
  let fraction := x.magnitude % fieldWeight
  let significand := if field = 0 then fraction else fieldWeight + fraction
  { low := if fraction = 0 ∧ 1 < field then 4 * significand - 1 else 4 * significand - 2
    value := 4 * significand
    high := 4 * significand + 2
    closed := significand % 2 = 0
    exponent := (max field 1 : Nat) - 1077 }

namespace Neighbourhood

/-- What one unit weighs against one step of the grid `10 ^ e`, as a fraction. -/
def unitPerStep (n : Neighbourhood) (e : Int) : Nat × Nat :=
  (Nat.pow 10 (-e).toNat <<< n.exponent.toNat, Nat.pow 10 e.toNat <<< (-n.exponent).toNat)

/-- Whether `d * 10 ^ e` rounds to the number. -/
def holds (n : Neighbourhood) (d : Nat) (e : Int) : Bool :=
  let (unit, step) := n.unitPerStep e
  if n.closed then n.low * unit ≤ d * step && d * step ≤ n.high * unit
  else n.low * unit < d * step && d * step < n.high * unit

/-- The multiple of `10 ^ e` just below the number, or the number itself. -/
def floorOn (n : Neighbourhood) (e : Int) : Nat :=
  let (unit, step) := n.unitPerStep e
  n.value * unit / step

/-- Whether the multiple of `10 ^ e` above the number is at least as close as the one below. -/
def upperIsNearer (n : Neighbourhood) (e : Int) : Bool :=
  let (unit, step) := n.unitPerStep e
  step ≤ 2 * (n.value * unit % step)

/-- The decimal on the grid `10 ^ e` that stands for the number, if the grid has one. With two to
choose from it is the nearer, and the upper one when they are equally near. -/
def onGrid? (n : Neighbourhood) (e : Int) : Option Decimal :=
  let d := n.floorOn e
  match n.holds d e, n.holds (d + 1) e with
  | false, false => none
  | true, false => some ⟨d, e⟩
  | false, true => some ⟨d + 1, e⟩
  | true, true => some ⟨if n.upperIsNearer e then d + 1 else d, e⟩

/-- A grid with a step larger than the number. The factor exceeds the decimal logarithm of 2. -/
def coarsest (n : Neighbourhood) : Int :=
  ((n.value.log2 : Int) + 1 + n.exponent) * 30103 / 100000 + 2

/-- Tries ever finer grids from `10 ^ e`. The last one tried holds the number itself. -/
def refine (n : Neighbourhood) : Nat → Int → Decimal
  | 0, e => ⟨n.floorOn e, e⟩
  | steps + 1, e =>
    match n.onGrid? e with
    | some found => found
    | none => refine n steps (e - 1)

end Neighbourhood

/-- The shortest decimal that reads back as a finite number other than zero, its sign ignored. -/
def shortest (x : Binary64) : Decimal :=
  let n := x.neighbourhood
  n.refine (n.coarsest - min 0 n.exponent).toNat n.coarsest

end Binary64

end TableScan
