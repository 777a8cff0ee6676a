/-!
# Doubles as exact numbers

A finite double is `± m · 2^q` with a natural number `m`. Everything that has to be exact about a
double (its decimal digits, rounding to places) is computed on `m` and `q`, never on the double.
-/

namespace QuadOpt

/-- What a double says: not a number, an infinity, or `± m · 2^q`. -/
inductive Binary64 where
  | nan
  | infinite (negative : Bool)
  | finite (negative : Bool) (m : Nat) (q : Int)
  deriving DecidableEq, Repr

namespace Binary64

def fractionBits : Nat := 52

def leastExponent : Int := -1074

/-- Reads the sign bit, the eleven exponent bits and the fraction. -/
def ofBits (bits : Nat) : Binary64 :=
  let negative := bits / Nat.pow 2 63 % 2 == 1
  let exponent := bits / Nat.pow 2 fractionBits % Nat.pow 2 11
  let fraction := bits % Nat.pow 2 fractionBits
  if exponent = Nat.pow 2 11 - 1 then
    if fraction = 0 then infinite negative else nan
  else if exponent = 0 then finite negative fraction leastExponent
  else finite negative (Nat.pow 2 fractionBits + fraction) (leastExponent + (exponent - 1 : Nat))

def ofFloat (x : Float) : Binary64 := ofBits x.toBits.toNat

/-- The pair `(a, b)` with `m · 2^q = a / b`. -/
def ratio (m : Nat) (q : Int) : Nat × Nat :=
  if 0 ≤ q then (m * Nat.pow 2 q.toNat, 1) else (m, Nat.pow 2 (-q).toNat)

theorem ratio_snd_pos (m : Nat) (q : Int) : 0 < (ratio m q).2 := by
  unfold ratio
  split
  · exact Nat.one_pos
  · exact Nat.two_pow_pos _

end Binary64

end QuadOpt
