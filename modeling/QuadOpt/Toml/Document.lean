import QuadOpt.Document.Decode
import QuadOpt.Toml.Number
import QuadOpt.Toml.Table

/-!
# TOML documents

Keys, values and lines, and the table that a whole text stands for. A text that breaks any rule has
no table.
-/

namespace QuadOpt.Toml

open Document Scan

/-- Values nest at most this deep, and a dotted key has at most this many parts. -/
def depthLimit : Nat := 79

/-- A list may be longer than a record has fields. -/
def dialect : Dialect := ⟨true⟩

def byteOrderMark : Char := '\ufeff'

/-! ## Keys -/

def isBareKeyChar (c : Char) : Bool := c.isAlphanum || c == '_' || c == '-'

def keyPart : Scan Key := do
  let (name, start, stop) ← spanned
    (basicString <|> literalString <|> String.ofList <$> takeWhile1 isBareKeyChar)
  return ⟨.name name, some ⟨start, stop⟩⟩

/-- A separator between two elements of the given kind, and the second one. -/
def followedBy {α : Type} (separator : Char) (element : Scan α) : Scan α := do
  char separator
  element

/-- Elements with a separator between them; there has to be one at least. -/
def separated {α : Type} (separator : Char) (element : Scan α) : Scan (List α) := do
  let first ← element
  return first :: (← many (followedBy separator element))

/-- Parts with points between them, and blanks wherever a part begins or ends. -/
def keyPath : Scan Path := do
  let parts ← separated '.' do
    blanks
    let part ← keyPart
    blanks
    return part
  match parts.getLast? with
  | some last => if parts.length ≤ depthLimit then return ⟨parts.dropLast, last⟩ else failure
  | none => failure

/-! ## Values -/

/-- A value in an array, with the blanks, comments and line breaks around it. -/
def arrayElement (value : Scan Node) : Scan Node := do
  wideBlanks
  let v ← value
  wideBlanks
  return v

def arrayOf (value : Scan Node) : Scan Tree := do
  char '['
  let items ← opt do
    let items ← separated ',' (arrayElement value)
    let _ ← opt (char ',')
    return items
  wideBlanks
  char ']'
  return .list false (items.getD []) true

def assignment (value : Scan Node) : Scan (Path × Node) := do
  let path ← keyPath
  char '='
  blanks
  let v ← value
  blanks
  return (path, v)

/-- On one line, and without a comma behind the last entry. -/
def inlineTableOf (value : Scan Node) : Scan Tree := do
  char '\x7b'
  let assignments ← opt (separated ',' (assignment value))
  blanks
  char '\x7d'
  match assignAll (assignments.getD []) [] with
  | some entries => return .table .inline entries true
  | none => failure

def word (s : String) (t : Tree) : Scan Tree := do
  tag s
  return t

/-- Values that hold no others. A date is tried before a number, a float before an integer. -/
def scalar : Scan Tree :=
  (.text <$> stringValue)
    <|> word "true" (.bool true)
    <|> word "false" (.bool false)
    <|> (do dateTime; return .date)
    <|> (.float <$> finiteFloat)
    <|> (.float <$> specialFloat)
    <|> (.int <$> integer)

/-- A value with its place; arrays and tables may nest `depth` times. -/
def value : (depth : Nat) → Scan Node
  | 0 => placed scalar
  | depth + 1 => placed (scalar <|> arrayOf (value depth) <|> inlineTableOf (value depth))
where
  placed (s : Scan Tree) : Scan Node := do
    let (t, start, stop) ← spanned s
    return (some ⟨start, stop⟩, t)

/-! ## Lines -/

/-- The end of a line or of the text. -/
def lineEnd : Scan Unit := do
  lineTail
  if (← rest).isEmpty then return () else lineBreak

def assignmentLine : Scan (Path × Node) := do
  let a ← assignment (value depthLimit)
  lineEnd
  return a

/-- Blank lines and comments, and blanks before the next line that says something. A comment at the
very end needs no line break. -/
def gap : Scan Unit := do
  wideBlanks
  lineTail

def assignmentLines : Scan (List (Path × Node)) :=
  many do
    gap
    assignmentLine

def header : Scan (Opening × Path) :=
  (do
    tag "[["
    let path ← keyPath
    tag "]]"
    return (.tableInList, path)) <|> do
    char '['
    let path ← keyPath
    char ']'
    return (.table, path)

def sectionLines : Scan Section := do
  gap
  let ((opening, path), start, stop) ← spanned header
  lineEnd
  return ⟨opening, path, ⟨start, stop⟩, ← assignmentLines⟩

def document : Scan (List (Path × Node) × List Section) := do
  let _ ← opt (char byteOrderMark)
  let top ← assignmentLines
  let sections ← many sectionLines
  gap
  return (top, sections)

def read (text : String) : Option Tree := do
  let (top, sections) ← document.run text.toList
  let entries ← sections.foldlM Section.add (← assignAll top [])
  return .table .header entries true

end QuadOpt.Toml
