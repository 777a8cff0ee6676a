import QuadOpt.Number.Reading
import QuadOpt.Text.Digits

/-!
# Numbers in JSON

A number without fraction and exponent is an integer if a machine word holds it, and else a double.
A double is made from the digits that fit into one word and a power of ten, in one multiplication or
division; it may so be a little off the nearest double. One that would be infinite is no number.
-/

namespace QuadOpt.Json

open Text

structure Numeral where
  negative : Bool
  whole : List Char
  fraction : Option (List Char)
  /-- Sign and digits. -/
  exponent : Option (Bool × List Char)
  deriving DecidableEq, Repr

/-- The digits in front, of which there must be one at least. -/
def digits? (cs : List Char) : Option (List Char × List Char) :=
  let digits := cs.takeWhile isDigit
  if digits.isEmpty then none else some (digits, cs.drop digits.length)

def sign (cs : List Char) : Bool × List Char :=
  match cs with
  | '-' :: rest => (true, rest)
  | '+' :: rest => (false, rest)
  | _ => (false, cs)

def fraction? : List Char → Option (Option (List Char) × List Char)
  | '.' :: rest => (digits? rest).map fun (ds, rest) => (some ds, rest)
  | cs => some (none, cs)

def exponent? : List Char → Option (Option (Bool × List Char) × List Char)
  | c :: rest =>
    if c = 'e' ∨ c = 'E' then
      let (negative, rest) := sign rest
      (digits? rest).map fun (ds, rest) => (some (negative, ds), rest)
    else some (none, c :: rest)
  | [] => some (none, [])

/-- A numeral and the text behind it. Only a zero alone begins with a zero, and no plus sign stands
in front. -/
def numeral? (cs : List Char) : Option (Numeral × List Char) := do
  let negative := cs.head? = some '-'
  let (whole, cs) ← digits? (if negative then cs.tail else cs)
  if whole.head? = some '0' ∧ 1 < whole.length then none
  else
    let (fraction, cs) ← fraction? cs
    let (exponent, cs) ← exponent? cs
    return (⟨negative, whole, fraction, exponent⟩, cs)

inductive Number where
  | int (i : Int)
  | float (x : Float)

/-- Takes digits for as long as the number fits into a machine word, and keeps the others. -/
def fitDigits (acc : Nat) : List Char → Nat × List Char
  | [] => (acc, [])
  | c :: cs =>
    let next := acc * 10 + (hexValue? c).getD 0
    if next < Nat.pow 2 64 then fitDigits next cs else (acc, c :: cs)

/-- The largest power of ten that is a double. -/
def largestPower : Nat := 308

def powerOfTen (k : Nat) : Float := Decimal.nearest ⟨1, k⟩

/-- A word times a power of ten, unless it is infinite. -/
def scaled? (significand : Nat) (exponent : Int) : Option Float :=
  let x := Decimal.nearest ⟨significand, 0⟩
  let k := exponent.natAbs
  if significand = 0 then some 0
  else if 0 ≤ exponent then
    let y := x * powerOfTen k
    if k ≤ largestPower ∧ y < 1 / 0 then some y else none
  else if k ≤ largestPower then some (x / powerOfTen k)
  else if k ≤ 2 * largestPower then
    some (x / powerOfTen largestPower / powerOfTen (k - largestPower))
  else some 0

def exponentLimit : Nat := Nat.pow 2 31

namespace Numeral

/-- The digits that fit into a word, and the power of ten to go with them. -/
def significand (n : Numeral) : Nat × Int :=
  let (acc, spilled) := fitDigits 0 n.whole
  let places := n.fraction.getD []
  let (acc, ignored) := fitDigits acc places
  (acc, spilled.length - (places.length - ignored.length : Nat))

/-- The value as a double, the sign left aside. -/
def magnitude? (n : Numeral) : Option Float :=
  let (acc, exponent) := n.significand
  match n.exponent with
  | none => scaled? acc exponent
  | some (negative, digits) =>
    let e := digitsValue 10 digits
    if e < exponentLimit then scaled? acc (if negative then exponent - e else exponent + e)
    else if negative ∨ acc = 0 then some 0
    else none

/-- The number, unless it is too large for a double. A negative zero is a double. -/
def number? (n : Numeral) : Option Number :=
  let (acc, spilled) := fitDigits 0 n.whole
  let limit := if n.negative then Nat.pow 2 63 else Nat.pow 2 64 - 1
  if n.fraction.isNone ∧ n.exponent.isNone ∧ spilled.isEmpty ∧ acc ≤ limit ∧
      ¬(n.negative ∧ acc = 0) then
    some (.int (if n.negative then -acc else acc))
  else n.magnitude?.map fun x => .float (if n.negative then -x else x)

end Numeral

end QuadOpt.Json
