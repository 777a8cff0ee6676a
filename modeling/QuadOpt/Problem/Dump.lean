import QuadOpt.Number.Notation
import QuadOpt.Problem

/-!
# The dump of a problem

First the dimensions, one a line. Then every coefficient under its name: a matrix takes one line a
row, a vector one line in all, even when it is empty.
-/

namespace QuadOpt.Problem

/-- Numbers in a dump are written in full: never an exponent, integers without a point. -/
def dumpNumber : Notation where
  positional := Notation.always
  pointZero := false
  nan := "NaN"
  infinity := Notation.signedInf

def entriesLine (vs : List Float) : String := " ".intercalate (vs.map dumpNumber.text)

def Block.lines : Block → List String
  | .matrix m => m.toLists.map entriesLine
  | .vector v => [entriesLine v]

def dumpLines (p : Problem) : List String :=
  p.dims.fields.map (fun (k, n) => k ++ ": " ++ toString n) ++
    Field.all.flatMap fun f => (f.name ++ ":") :: (p.block f).lines

/-- Every line is ended by a line break. -/
def dump (p : Problem) : String := String.join (p.dumpLines.map (· ++ "\n"))

end QuadOpt.Problem
