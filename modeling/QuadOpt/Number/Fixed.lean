import QuadOpt.Number.Notation

/-!
# A number with a fixed count of places

The exact value of the double is rounded once, a half going to the even neighbour.
-/

namespace QuadOpt.Fixed

/-- `a / b` to the nearest integer, a half to the even one. -/
def roundDiv (a b : Nat) : Nat :=
  let low := a / b
  let rest := a % b
  if 2 * rest < b then low
  else if b < 2 * rest then low + 1
  else if low % 2 = 0 then low else low + 1

def scaled (places m : Nat) (q : Int) : Nat :=
  let (a, b) := Binary64.ratio m q
  roundDiv (a * Nat.pow 10 places) b

/-- A count of units of `10^-places`, with at least one digit before the point. -/
def unitsText (places units : Nat) : String :=
  let whole := Notation.digitText (units / Nat.pow 10 places)
  let part := Notation.digitText (units % Nat.pow 10 places)
  if places = 0 then whole
  else whole ++ "." ++ Notation.zeros (places - part.length) ++ part

/-- A result that is all zeros has no sign. -/
def text (places : Nat) (x : Float) : String :=
  match Binary64.ofFloat x with
  | .nan => "nan"
  | .infinite negative => Notation.signedInf negative
  | .finite negative m q =>
    let units := scaled places m q
    (if negative && units ≠ 0 then "-" else "") ++ unitsText places units

end QuadOpt.Fixed
