import QuadOpt.Text.Digits
import QuadOpt.Toml.Scan

/-!
# Strings in TOML

Basic strings have escapes, literal ones have none; both come on one line or on several. The line
break right after an opening triple quote does not count, and every line break in a string on several
lines reads as a plain one.
-/

namespace QuadOpt.Toml

open Scan Text

/-- `n` digits as the number of a character. -/
def codePoint (n : Nat) : Scan Char := do
  let digits := (← rest).take n
  if digits.length = n ∧ digits.all isHexDigit then
    let value := digitsValue 16 digits
    if value.isValidChar then
      skip n
      return Char.ofNat value
    else failure
  else failure

def escape : Scan Char := do
  match ← satisfy fun _ => true with
  | 'b' => return '\x08'
  | 't' => return '\t'
  | 'n' => return '\n'
  | 'f' => return '\x0c'
  | 'r' => return '\r'
  | '"' => return '"'
  | '\\' => return '\\'
  | 'u' => codePoint 4
  | 'U' => codePoint 8
  | _ => failure

/-- Stands for itself in a basic string: no control but the tab, no quote, no backslash. -/
def isBasicChar (c : Char) : Bool := isCommentChar c && c != '"' && c != '\\'

def isLiteralChar (c : Char) : Bool := isCommentChar c && c != '\x27'

def basicString : Scan String := do
  char '"'
  let cs ← many (satisfy isBasicChar <|> (do char '\\'; escape))
  char '"'
  return String.ofList cs

def literalString : Scan String := do
  char '\x27'
  let cs ← takeWhile isLiteralChar
  char '\x27'
  return String.ofList cs

/-- A backslash at the end of a line takes all blanks and line breaks up to the next character. -/
def foldedBreak : Scan (List Char) := do
  char '\\'
  blanks
  lineBreak
  let _ ← many (lineBreak <|> (do let _ ← takeWhile1 isBlank))
  return []

/-- The end of a string on several lines: three quotes, with up to two before them that still belong
to the string. -/
def closing (quote : Char) : Scan (List Char) := do
  let quotes := ((← rest).takeWhile (· == quote)).length
  if quotes < 3 then failure
  else
    let inside := min (quotes - 3) 2
    skip (inside + 3)
    return List.replicate inside quote

def looseQuotes (quote : Char) : Scan (List Char) := do
  let quotes := (← rest).takeWhile (· == quote)
  if quotes.isEmpty ∨ 3 ≤ quotes.length then failure
  else
    skip quotes.length
    return quotes

def longString (quote : Char) (piece : Scan (List Char)) : Scan String := do
  tag (String.ofList (List.replicate 3 quote))
  let _ ← opt lineBreak
  let pieces ← many (piece <|> (do lineBreak; return ['\n']) <|> looseQuotes quote)
  let last ← closing quote
  return String.ofList (pieces.flatten ++ last)

def longBasicString : Scan String :=
  longString '"' (takeWhile1 isBasicChar <|> foldedBreak <|> (do char '\\'; return [← escape]))

def longLiteralString : Scan String := longString '\x27' (takeWhile1 isLiteralChar)

def stringValue : Scan String :=
  longBasicString <|> basicString <|> longLiteralString <|> literalString

end QuadOpt.Toml
