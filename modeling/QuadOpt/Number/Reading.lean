import QuadOpt.Number.Shortest

/-!
# The double nearest to a decimal
-/

namespace QuadOpt.Decimal

/-- The nearest double, infinite when the decimal lies beyond the largest one. Decimals far outside
the range of doubles are settled by their size, so the powers of ten stay small. -/
def nearest (d : Decimal) : Float :=
  if d.digits = 0 then 0
  else
    let size := d.exponent + width d.digits
    if 310 < size then 1 / 0
    else if size < -330 then 0
    else Float.ofScientific d.digits (d.exponent < 0) d.exponent.natAbs

/-- The nearest double with a sign of its own, so that a negative zero stays one. -/
def signed (negative : Bool) (d : Decimal) : Float :=
  if negative then -d.nearest else d.nearest

end QuadOpt.Decimal
