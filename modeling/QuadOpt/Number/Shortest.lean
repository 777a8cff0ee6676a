import QuadOpt.Number.Binary64

/-!
# The fewest digits that read back

A double stands for every real number that rounds to it. Among the decimals in that interval the
ones with fewest digits are wanted, and of those the nearest to the double itself. The search goes
grid by grid, from one digit to seventeen: if the interval holds any point of a grid it holds one of
the two neighbours of the double on that grid, so two tests settle each grid.
-/

namespace QuadOpt

structure Decimal where
  digits : Nat
  exponent : Int
  deriving DecidableEq, Repr

namespace Decimal

/-- How many decimal digits `n` has; zero has one. -/
def width (n : Nat) : Nat := (Nat.toDigits 10 n).length

/-- The exponent of the leading digit when one digit stands before the point. -/
def leading (d : Decimal) : Int := d.exponent + width d.digits - 1

/-- Drops trailing zeros of the digits, at most `fuel` of them. -/
def trimZeros : Nat → Decimal → Decimal
  | 0, d => d
  | fuel + 1, d =>
    if d.digits ≠ 0 ∧ d.digits % 10 = 0 then trimZeros fuel ⟨d.digits / 10, d.exponent + 1⟩ else d

/-- The least `e` with `a / b < 10^e`, for a positive fraction. -/
def magnitude (a b : Nat) : Int :=
  let e : Int := (width a : Int) - (width b : Int)
  let below := if 0 ≤ e then a < b * Nat.pow 10 e.toNat else a * Nat.pow 10 (-e).toNat < b
  if below then e else e + 1

/-- The reals that round to a double, as quarters of its last place: between `low` and `high`, ends
included when `closed`, around the double's own value `4 m`. -/
structure Interval where
  low : Nat
  high : Nat
  closed : Bool

/-- Half a place on each side, but only a quarter below a power of two, where the doubles below lie
twice as close. A tie goes to the even significand. -/
def interval (m : Nat) (q : Int) : Interval :=
  let tight := m = Nat.pow 2 Binary64.fractionBits ∧ Binary64.leastExponent < q
  { low := if tight then 4 * m - 1 else 4 * m - 2, high := 4 * m + 2, closed := m % 2 = 0 }

/-- Whether `x / scale` lies in the interval, `x` and `scale` being in the same unit. -/
def Interval.holds (i : Interval) (scale x : Nat) : Bool :=
  if i.closed then i.low * scale ≤ x && x ≤ i.high * scale
  else i.low * scale < x && x < i.high * scale

/-- The nearest decimal with `n` digits that rounds to `m · 2^q`, if there is one. An exact tie goes
to the even digit. -/
def onGrid? (m : Nat) (q : Int) (n : Nat) : Option Decimal :=
  let (a, b) := Binary64.ratio 1 (q - 2)
  let e := magnitude (4 * m * a) b - n
  -- One quarter place is `a / b`; a grid step is `10^e`. Both are brought to a common unit.
  let scale := if 0 ≤ e then a else a * Nat.pow 10 (-e).toNat
  let step := if 0 ≤ e then b * Nat.pow 10 e.toNat else b
  let value := 4 * m * scale
  let below := value / step
  let above := below + 1
  let i := interval m q
  match i.holds scale (below * step), i.holds scale (above * step) with
  | false, false => none
  | true, false => some ⟨below, e⟩
  | false, true => some ⟨above, e⟩
  | true, true =>
    let down := value - below * step
    let up := above * step - value
    if down < up ∨ (down = up ∧ below % 2 = 0) then some ⟨below, e⟩ else some ⟨above, e⟩

/-- The shortest decimal that reads back as `m · 2^q`, without trailing zeros. Seventeen digits
always suffice. -/
def shortest (m : Nat) (q : Int) : Decimal :=
  if m = 0 then ⟨0, 0⟩
  else
    let found := (List.range 17).findSome? fun i => onGrid? m q (i + 1)
    trimZeros 20 (found.getD ⟨0, 0⟩)

end Decimal

end QuadOpt
