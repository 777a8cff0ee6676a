import QuadOpt.Text.Digits

/-!
# Strings in JSON

A string is read in two steps. First come its pieces: characters, and units of sixteen bits that were
written as escapes. Then pairs of units are put together. A unit that should be half of a pair and is
not makes the string unreadable, but it still has an end.
-/

namespace QuadOpt.Json

open Text

/-- A piece of a string between its quotes. -/
inductive Piece where
  | char (c : Char)
  | unit (n : Nat)
  deriving DecidableEq, Repr

/-- The character that a letter behind a backslash stands for. -/
def escaped? : Char → Option Char
  | '"' => some '"'
  | '\\' => some '\\'
  | '/' => some '/'
  | 'b' => some '\x08'
  | 'f' => some '\x0c'
  | 'n' => some '\n'
  | 'r' => some '\r'
  | 't' => some '\t'
  | _ => none

def unit? (digits : List Char) : Option Piece :=
  if digits.all isHexDigit then some (.unit (digitsValue 16 digits)) else none

/-- The pieces up to the closing quote, and the text behind it. -/
def pieces? : List Char → Option (List Piece × List Char)
  | [] => none
  | '"' :: rest => some ([], rest)
  | '\\' :: 'u' :: a :: b :: c :: d :: rest => do
    let piece ← unit? [a, b, c, d]
    let (more, rest) ← pieces? rest
    return (piece :: more, rest)
  | '\\' :: c :: rest => do
    let e ← escaped? c
    let (more, rest) ← pieces? rest
    return (.char e :: more, rest)
  | c :: rest => do
    if c < ' ' then none
    else
      let (more, rest) ← pieces? rest
      return (.char c :: more, rest)

def isHighHalf (n : Nat) : Bool := 0xD800 ≤ n && n < 0xDC00

def isLowHalf (n : Nat) : Bool := 0xDC00 ≤ n && n < 0xE000

/-- The number of the character that two halves stand for. -/
def joined (high low : Nat) : Nat := 0x10000 + (high - 0xD800) * 0x400 + (low - 0xDC00)

def characters? : List Piece → Option (List Char)
  | [] => some []
  | .char c :: rest => (characters? rest).map (c :: ·)
  | .unit high :: .unit low :: rest =>
    if isHighHalf high && isLowHalf low then
      (characters? rest).map (Char.ofNat (joined high low) :: ·)
    else if isHighHalf high || isLowHalf high then none
    else (characters? (.unit low :: rest)).map (Char.ofNat high :: ·)
  | .unit n :: rest =>
    if isHighHalf n || isLowHalf n then none else (characters? rest).map (Char.ofNat n :: ·)

def pieceText? (pieces : List Piece) : Option String := (characters? pieces).map String.ofList

end QuadOpt.Json
