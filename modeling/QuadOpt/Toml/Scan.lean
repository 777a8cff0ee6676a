import QuadOpt.Number.Reading

/-!
# Scanning TOML

A scanner takes characters from the front of a text and counts them, or fails. What it gave up on can
be tried again by another scanner. Loops end because they take at least one character a round or stop
when the text does.
-/

namespace QuadOpt.Toml

/-- The rest of a text and how many characters came before it. -/
structure Cursor where
  position : Nat
  rest : List Char

abbrev Scan := StateT Cursor Option

namespace Scan

def position : Scan Nat := return (← get).position

/-- The next character, which stays where it is. -/
def peek? : Scan (Option Char) := return (← get).rest.head?

def rest : Scan (List Char) := return (← get).rest

def skip (n : Nat) : Scan Unit := modify fun c => ⟨c.position + n, c.rest.drop n⟩

def satisfy (p : Char → Bool) : Scan Char := do
  match (← get).rest with
  | c :: _ =>
    if p c then
      skip 1
      return c
    else failure
  | [] => failure

def char (c : Char) : Scan Unit := do
  let _ ← satisfy (· == c)

def tag (s : String) : Scan Unit := do
  if s.toList.isPrefixOf (← rest) then skip s.length else failure

/-- Takes the characters up to the first that does not satisfy `p`. -/
def takeWhile (p : Char → Bool) : Scan (List Char) := do
  let taken := (← rest).takeWhile p
  skip taken.length
  return taken

def takeWhile1 (p : Char → Bool) : Scan (List Char) := do
  let taken ← takeWhile p
  if taken.isEmpty then failure else return taken

/-- Tries a scanner; where it fails nothing is taken. -/
def opt {α : Type} (s : Scan α) : Scan (Option α) := (some <$> s) <|> pure none

/-- Repeats a scanner until it fails, at most `fuel` times. -/
def manyUpTo {α : Type} (s : Scan α) : Nat → Scan (List α)
  | 0 => pure []
  | fuel + 1 => do
    match ← opt s with
    | none => return []
    | some a => return a :: (← manyUpTo s fuel)

/-- Repeats a scanner that takes something each time until it fails. -/
def many {α : Type} (s : Scan α) : Scan (List α) := do manyUpTo s (← rest).length

/-- A scanner's result and the characters from where it began to where it ended. -/
def spanned {α : Type} (s : Scan α) : Scan (α × Nat × Nat) := do
  let start ← position
  let a ← s
  return (a, start, ← position)

def run {α : Type} (s : Scan α) (text : List Char) : Option α := do
  let (a, cursor) ← StateT.run s ⟨0, text⟩
  if cursor.rest.isEmpty then some a else none

end Scan

/-! ## Blanks and comments -/

def isBlank (c : Char) : Bool := c == ' ' || c == '\t'

/-- A character that may stand in a comment: no control but the tab. -/
def isCommentChar (c : Char) : Bool := c == '\t' || (' ' ≤ c && c != '\x7f')

open Scan

def blanks : Scan Unit := do
  let _ ← takeWhile isBlank

/-- A line break, or a carriage return with one. -/
def lineBreak : Scan Unit := char '\n' <|> tag "\r\n"

def comment : Scan Unit := do
  char '#'
  let _ ← takeWhile isCommentChar

/-- What may follow on a line: blanks and a comment. -/
def lineTail : Scan Unit := do
  blanks
  let _ ← opt comment

/-- Blanks, comments and line breaks. A comment here is ended by a line break. -/
def wideBlanks : Scan Unit := do
  let _ ← many do
    let _ ← takeWhile1 isBlank <|> (do lineTail; lineBreak; return [])
  return ()

end QuadOpt.Toml
