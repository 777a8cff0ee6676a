import QuadOpt.Number.Shortest

/-!
# How a decimal is laid out

The digits come from `Decimal.shortest`. A text format adds its own decisions, which are the fields
of `Notation`: which exponents are written without an exponent, whether an integer keeps a point
and a zero, and the words for infinities and for a value that is no number.
-/

namespace QuadOpt

/-- The decisions a text format makes about numbers. -/
structure Notation where
  /-- Leading exponents that are written positionally. -/
  positional : Int → Bool
  /-- An integer written positionally ends in `.0`. -/
  pointZero : Bool
  nan : String
  infinity : (negative : Bool) → String

namespace Notation

/-- Every finite number in full, never an exponent. -/
def always : Int → Bool := fun _ => true

def digitText (n : Nat) : String := String.ofList (Nat.toDigits 10 n)

def zeros (n : Nat) : String := String.ofList (List.replicate n '0')

/-- All digits, with as many zeros as the point needs. -/
def positionalText (pointZero : Bool) (d : Decimal) : String :=
  let digits := digitText d.digits
  let width := digits.length
  if 0 ≤ d.exponent then
    digits ++ zeros d.exponent.toNat ++ if pointZero then ".0" else ""
  else
    let places := (-d.exponent).toNat
    if places < width then
      (digits.take (width - places)).toString ++ "." ++ (digits.drop (width - places)).toString
    else "0." ++ zeros (places - width) ++ digits

/-- One digit before the point, and a signed exponent. -/
def exponentText (d : Decimal) : String :=
  let digits := digitText d.digits
  let mantissa :=
    if digits.length ≤ 1 then digits
    else (digits.take 1).toString ++ "." ++ (digits.drop 1).toString
  let e := d.leading
  mantissa ++ "e" ++ (if e < 0 then "-" else "+") ++ digitText e.natAbs

def finiteText (f : Notation) (d : Decimal) : String :=
  if f.positional d.leading then positionalText f.pointZero d else exponentText d

def text (f : Notation) (x : Float) : String :=
  match Binary64.ofFloat x with
  | .nan => f.nan
  | .infinite negative => f.infinity negative
  | .finite negative m q => (if negative then "-" else "") ++ f.finiteText (.shortest m q)

/-- The words most formats use for an infinity. -/
def signedInf (negative : Bool) : String := if negative then "-inf" else "inf"

end Notation

end QuadOpt
