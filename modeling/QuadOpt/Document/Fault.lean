import QuadOpt.Document.Tree
import QuadOpt.Number.Notation
import QuadOpt.Text.Quoted

/-!
# Why a document does not fit

Either the text is not well formed, or a value in it is not what its place asks for. The causes are
data; `Misfit.text` has the wording.
-/

namespace QuadOpt.Document

inductive Found where
  | null
  | bool (b : Bool)
  | int (i : Int)
  | float (x : Float)
  | text (s : String)
  | sequence
  | map
  deriving DecidableEq, Repr

/-- Numbers in messages: in full, always with a point. -/
def messageNumber : Notation where
  positional := Notation.always
  pointZero := true
  nan := "NaN"
  infinity := Notation.signedInf

def Found.describe : Found → String
  | null => "null"
  | bool b => "boolean `" ++ toString b ++ "`"
  | int i => "integer `" ++ toString i ++ "`"
  | float x => "floating point `" ++ messageNumber.text x ++ "`"
  | text s => "string " ++ Text.quoted s
  | sequence => "sequence"
  | map => "map"

/-- The description of a value; there is none for what could not be read. A date is a map. -/
def Tree.found? : Tree → Option Found
  | .null => some .null
  | .bool b => some (.bool b)
  | .int i => some (.int i)
  | .float x => some (.float x)
  | .text s => some (.text s)
  | .date => some .map
  | .list .. => some .sequence
  | .table .. => some .map
  | .unreadable => none

inductive Expected where
  | boolean
  | word32
  | word64
  | double
  | record (name : String)
  | unit
  | variantName
  deriving DecidableEq, Repr

def Expected.text : Expected → String
  | boolean => "a boolean"
  | word32 => "u32"
  | word64 => "usize"
  | double => "f64"
  | record name => "struct " ++ name
  | unit => "unit"
  | variantName => "variant identifier"

/-- Why a value does not fit its place. -/
inductive Misfit where
  | invalidType (found : Found) (expected : Expected)
  | invalidValue (found : Found) (expected : Expected)
  /-- A list ended after this many elements. -/
  | invalidLength (length : Nat) (expected : Expected) (wanted : Nat)
  | unknownVariant (name : String) (variants : List String)
  | missingField (name : String)
  | duplicateField (name : String)
  /-- The name of a variant was wanted, by itself or as the key of a table. -/
  | stringOrTableWanted
  | oneEntryWanted (more : Bool)
  | emptyTableWanted
  | emptyListWanted
  | tableWanted (found : String)
  deriving DecidableEq, Repr

/-- A choice between names, each in its own quotes. -/
def choiceText (names : List String) : String :=
  let quoted := names.map fun n => "`" ++ n ++ "`"
  match quoted with
  | [a] => a
  | [a, b] => a ++ " or " ++ b
  | all => "one of " ++ ", ".intercalate all

def Misfit.text : Misfit → String
  | invalidType found expected => "invalid type: " ++ found.describe ++ ", expected " ++ expected.text
  | invalidValue found expected => "invalid value: " ++ found.describe ++ ", expected " ++ expected.text
  | invalidLength length expected wanted =>
    "invalid length " ++ toString length ++ ", expected " ++ expected.text ++ " with " ++
      toString wanted ++ " elements"
  | unknownVariant name variants =>
    "unknown variant `" ++ name ++ "`, expected " ++ choiceText variants
  | missingField name => "missing field `" ++ name ++ "`"
  | duplicateField name => "duplicate field `" ++ name ++ "`"
  | stringOrTableWanted => "wanted string or table"
  | oneEntryWanted more =>
    "wanted exactly 1 element, " ++ if more then "more than 1 element" else "found 0 elements"
  | emptyTableWanted => "expected empty table"
  | emptyListWanted => "expected empty array"
  | tableWanted found => "expected table, found " ++ found

/-- Why a text is no configuration: it is not well formed, or something in it does not fit. The
place is known if the format has places. -/
inductive Fault where
  | malformed
  | misfit (cause : Misfit) (place : Option Span)
  deriving DecidableEq, Repr

/-- Gives a misfit a place, unless it has one. -/
def Fault.orPlace (place : Option Span) : Fault → Fault
  | malformed => malformed
  | misfit cause known => misfit cause (known <|> place)

end QuadOpt.Document
