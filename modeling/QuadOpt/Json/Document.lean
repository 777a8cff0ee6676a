import QuadOpt.Document.Decode
import QuadOpt.Json.Number
import QuadOpt.Json.Text

/-!
# JSON documents

A text is read up to where it goes wrong, if it does, and decoding sees what comes before that. So a
misfit in front of a fault in the text is reported, and one behind it is not.
-/

namespace QuadOpt.Json

open Document

/-- A list must not be longer than a record has fields. -/
def dialect : Dialect := ⟨false⟩

def isBlank (c : Char) : Bool := c == ' ' || c == '\n' || c == '\t' || c == '\r'

def skipBlanks (cs : List Char) : List Char := cs.dropWhile isBlank

/-- The text behind a value, unless something is wrong with the value. -/
abbrev Rest := Option (List Char)

def broken : Tree × Rest := (.unreadable, none)

def literal (w : String) (t : Tree) (cs : List Char) : Tree × Rest :=
  if w.toList.isPrefixOf cs then (t, cs.drop w.length) else broken

def string (cs : List Char) : Tree × Rest :=
  match pieces? cs with
  | none => broken
  | some (pieces, rest) =>
    match pieceText? pieces with
    | some s => (.text s, rest)
    | none => (.unreadable, rest)

def number (cs : List Char) : Tree × Rest :=
  match numeral? cs with
  | none => broken
  | some (n, rest) =>
    match n.number? with
    | some (.int i) => (.int i, rest)
    | some (.float x) => (.float x, rest)
    | none => (.unreadable, rest)

def scalar (cs : List Char) : Tree × Rest :=
  match cs with
  | '"' :: rest => string rest
  | 'n' :: _ => literal "null" .null cs
  | 't' :: _ => literal "true" (.bool true) cs
  | 'f' :: _ => literal "false" (.bool false) cs
  | _ => number cs

/-- What stands at the place of a key behind its opening quote, and the text behind the colon. -/
def key (cs : List Char) : Key × Rest :=
  match pieces? cs with
  | none => (⟨.unreadable, none⟩, none)
  | some (pieces, rest) =>
    let text : KeyText := ((pieceText? pieces).map .name).getD .unreadable
    match skipBlanks rest with
    | ':' :: rest => (⟨text, none⟩, some rest)
    | _ => (⟨text, none⟩, none)

/-- What follows an element: the end, another element, or a fault. -/
def continueWith {α : Type} (close : Char) (first : α) (rest : Rest)
    (others : List Char → List α × Rest) : List α × Rest :=
  match rest.map skipBlanks with
  | some (c :: rest) =>
    if c = close then ([first], some rest)
    else if c = ',' then
      let (more, rest) := others rest
      (first :: more, rest)
    else ([first], none)
  | _ => ([first], none)

/-- Elements up to the closing bracket, unless it comes at once. -/
def listOf {α : Type} (close : Char) (elements : List Char → List α × Rest) (cs : List Char) :
    List α × Rest :=
  match skipBlanks cs with
  | c :: rest => if c = close then ([], some rest) else elements (c :: rest)
  | [] => ([], none)

mutual

/-- A value at the front of a text. Every call takes a character or is the last, so twice the length
of the text is fuel enough. -/
def value : (fuel : Nat) → List Char → Tree × Rest
  | 0, _ => broken
  | fuel + 1, cs =>
    match skipBlanks cs with
    | '{' :: rest =>
      let (entries, rest) := listOf '\x7d' (entries fuel) rest
      (.table .inline entries rest.isSome, rest)
    | '[' :: rest =>
      let (items, rest) := listOf ']' (items fuel) rest
      (.list false items rest.isSome, rest)
    | rest => scalar rest

/-- Elements of a list, from the first that is there. -/
def items : (fuel : Nat) → List Char → List Node × Rest
  | 0, _ => ([], none)
  | fuel + 1, cs =>
    let (t, rest) := value fuel cs
    continueWith ']' (none, t) rest (items fuel)

/-- Entries of a table, from the first that is there. -/
def entries : (fuel : Nat) → List Char → List Entry × Rest
  | 0, _ => ([], none)
  | fuel + 1, cs =>
    match skipBlanks cs with
    | '"' :: rest =>
      match key rest with
      | (k, none) => ([(k, none, .unreadable)], none)
      | (k, some rest) =>
        let (t, rest) := value fuel rest
        continueWith '\x7d' (k, none, t) rest (entries fuel)
    | rest => ([(⟨.stray, none⟩, none, (value fuel rest).1)], none)

end

/-- What a text says, and whether it was read to its end. -/
def read (text : String) : Tree × Bool :=
  let cs := text.toList
  let (t, rest) := value (2 * cs.length + 2) cs
  (t, rest.map skipBlanks = some [])

def decodeText {α : Type} (decode : Tree → Decoded α) (text : String) : Decoded α :=
  let (t, complete) := read text
  match decode t with
  | .error fault => .error fault
  | .ok a => if complete then .ok a else .error .malformed

end QuadOpt.Json
