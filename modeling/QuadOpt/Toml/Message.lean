import QuadOpt.Document.Fault

/-!
# A misfit shown in its text

The line of the text where the misfit is, with carets under it, and the cause.
-/

namespace QuadOpt.Toml

open Document

def blanksText (n : Nat) : String := String.ofList (List.replicate n ' ')

/-- A position in a text: lines and columns count from zero. -/
structure Place where
  line : Nat
  column : Nat
  lineText : List Char

/-- The line of the `n`-th character, and where in that line it stands. -/
def placeOf (text : List Char) (n : Nat) : Place :=
  let before := text.take n
  let column := (before.reverse.takeWhile (· != '\n')).length
  { line := before.count '\n'
    column := column
    lineText := (text.drop (n - column)).takeWhile (· != '\n') }

def byteCount (cs : List Char) : Nat := cs.foldl (fun n c => n + c.utf8Size) 0

/-- How many carets mark a span that begins at a place: one for each byte of it, but at least one and
no more than the line is long behind the column. -/
def caretCount (text : List Char) (place : Place) (span : Span) : Nat :=
  let size := byteCount ((text.drop span.start).take (span.stop - span.start))
  max 1 (min size (byteCount place.lineText - place.column))

/-- The heading, the line between its gutter and its carets, and the cause. -/
def excerpt (text : String) (span : Span) : List String :=
  let cs := text.toList
  let place := placeOf cs span.start
  let number := toString (place.line + 1)
  let gutter := blanksText (number.length + 1) ++ "|"
  let carets := String.ofList (List.replicate (caretCount cs place span) '^')
  ["TOML parse error at line " ++ number ++ ", column " ++ toString (place.column + 1),
    gutter,
    number ++ " | " ++ String.ofList place.lineText,
    gutter ++ blanksText (place.column + 1) ++ carets]

/-- Every line of the message is ended by a line break. -/
def message (text : String) (cause : Misfit) (place : Option Span) : String :=
  let lines := (place.map (excerpt text)).getD [] ++ [cause.text]
  String.join (lines.map (· ++ "\n"))

end QuadOpt.Toml
