import QuadOpt.Toml.Text

/-!
# Numbers and dates in TOML

Underscores may stand between digits. An integer is a signed 64-bit word; a float must not overflow.
-/

namespace QuadOpt.Toml

open Scan Text

/-- Digits with single underscores between them. The underscores are left out. -/
def digitRun (p : Char → Bool) : Scan (List Char) := do
  let first ← satisfy p
  let more ← many do
    let _ ← opt (char '_')
    satisfy p
  return first :: more

def sign : Scan Bool := do
  match ← peek? with
  | some '-' => do skip 1; return true
  | some '+' => do skip 1; return false
  | _ => return false

def decimalInteger : Scan (Bool × List Char) := do
  let negative ← sign
  let digits ← digitRun isDigit
  if digits.head? = some '0' ∧ 1 < digits.length then failure
  else return (negative, digits)

/-- The letter after a leading zero and the base it stands for. -/
def bases : List (String × Nat × (Char → Bool)) :=
  [("0x", 16, isHexDigit), ("0o", 8, fun c => '0' ≤ c && c ≤ '7'),
    ("0b", 2, fun c => c == '0' || c == '1')]

/-- Signed 64-bit words reach from minus this number up to it, itself not included. -/
def signedLimit : Nat := Nat.pow 2 63

def signedWord (i : Int) : Scan Int :=
  if -signedLimit ≤ i ∧ i < signedLimit then return i else failure

def integer : Scan Int := do
  for (start, base, p) in bases do
    if (← opt (tag start)).isSome then
      return ← signedWord (digitsValue base (← digitRun p))
  let (negative, digits) ← decimalInteger
  let value : Int := digitsValue 10 digits
  signedWord (if negative then -value else value)

def fraction : Scan (List Char) := do
  char '.'
  digitRun isDigit

def exponent : Scan Int := do
  let _ ← satisfy fun c => c == 'e' || c == 'E'
  let negative ← sign
  let value : Int := digitsValue 10 (← digitRun isDigit)
  return if negative then -value else value

def finiteFloat : Scan Float := do
  let (negative, whole) ← decimalInteger
  let part ← opt fraction
  let power ← opt exponent
  if part.isNone && power.isNone then failure
  else
    let places := part.getD []
    let d : Decimal := ⟨digitsValue 10 (whole ++ places), power.getD 0 - places.length⟩
    let x := d.nearest
    if x = 1 / 0 then failure else return if negative then -x else x

def specialFloat : Scan Float := do
  let negative ← sign
  let x ← (do tag "inf"; return 1 / 0) <|> (do tag "nan"; return 0 / 0)
  return if negative then -x else x

/-! ## Dates and times -/

/-- Exactly `n` digits, as a number from `low` to `high`. -/
def boundedDigits (n low high : Nat) : Scan Nat := do
  let digits := (← rest).take n
  if digits.length = n ∧ digits.all isDigit then
    let value := digitsValue 10 digits
    if low ≤ value ∧ value ≤ high then
      skip n
      return value
    else failure
  else failure

def daysIn (year month : Nat) : Nat :=
  if month = 2 then
    if year % 4 = 0 ∧ (year % 100 ≠ 0 ∨ year % 400 = 0) then 29 else 28
  else if month = 4 ∨ month = 6 ∨ month = 9 ∨ month = 11 then 30
  else 31

def fullDate : Scan Unit := do
  let year ← boundedDigits 4 0 9999
  char '-'
  let month ← boundedDigits 2 1 12
  char '-'
  let _ ← boundedDigits 2 1 (daysIn year month)

/-- Hour, minute and second, where a leap second is allowed. -/
def timeOfDay : Scan Unit := do
  let _ ← boundedDigits 2 0 23
  char ':'
  let _ ← boundedDigits 2 0 59
  char ':'
  let _ ← boundedDigits 2 0 60
  let _ ← opt (do char '.'; takeWhile1 isDigit)

def offset : Scan Unit :=
  (do let _ ← satisfy fun c => c == 'Z' || c == 'z') <|> do
    let _ ← satisfy fun c => c == '+' || c == '-'
    let _ ← boundedDigits 2 0 23
    char ':'
    let _ ← boundedDigits 2 0 59

/-- A date, a time, or both with an offset if wanted. -/
def dateTime : Scan Unit :=
  (do
    fullDate
    let _ ← opt do
      let _ ← satisfy fun c => c == 'T' || c == 't' || c == ' '
      timeOfDay
      opt offset) <|> timeOfDay

end QuadOpt.Toml
