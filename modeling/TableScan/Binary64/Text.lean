import TableScan.Binary64.Shortest

/-!
The text of a number: its shortest decimal, always written out in positional notation. Whole
numbers carry no point, and zero keeps its sign.
-/

namespace TableScan

namespace Decimal

/-- Positional notation, never with an exponent. -/
def positional (d : Decimal) : String :=
  let digits := Nat.toDigits 10 d.digits
  if 0 ≤ d.exponent then
    String.ofList (digits ++ List.replicate d.exponent.toNat '0')
  else
    let places := (-d.exponent).toNat
    let padded := List.replicate (places + 1 - digits.length) '0' ++ digits
    let whole := padded.length - places
    String.ofList (padded.take whole ++ '.' :: padded.drop whole)

end Decimal

namespace Binary64

/-- The text of the number without its sign. -/
def magnitudeText (x : Binary64) : String :=
  if x.isInfinite then "inf" else if x.magnitude = 0 then "0" else x.shortest.positional

def text (x : Binary64) : String :=
  if x.isNaN then "NaN"
  else if x.isNegative then "-" ++ x.magnitudeText
  else x.magnitudeText

end Binary64

end TableScan
