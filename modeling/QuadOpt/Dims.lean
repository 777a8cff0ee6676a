/-!
# Problem dimensions
-/

namespace QuadOpt

/-- Numbers of variables, equality rows and inequality rows. -/
structure Dims where
  var : Nat
  eq : Nat
  ineq : Nat
  deriving DecidableEq, Repr, Inhabited

namespace Dims

/-- Counts are machine words; this is the first number that is none. -/
def wordLimit : Nat := Nat.pow 2 64

/-- Equality plus inequality rows, unless the sum is no machine word. -/
def numConstraints? (d : Dims) : Option Nat :=
  let sum := d.eq + d.ineq
  if sum < wordLimit then some sum else none

/-- Each count under its name, in the order of every listing. -/
def fields (d : Dims) : List (String × Nat) :=
  [("dim_var", d.var), ("dim_eq", d.eq), ("dim_ineq", d.ineq)]

/-- The counts as `name: n`, the form of messages. -/
def text (d : Dims) : String :=
  ", ".intercalate (d.fields.map fun (k, n) => k ++ ": " ++ toString n)

def diagnosticText (d : Dims) : String := "QpDims \x7b " ++ d.text ++ " \x7d"

structure Negative where
  field : String
  value : Int
  deriving DecidableEq, Repr

def Negative.detail (e : Negative) : String :=
  e.field ++ " must be >= 0, got " ++ toString e.value

/-- Dimensions from signed counts; the first negative one is refused. -/
def ofInts (var eq ineq : Int) : Except Negative Dims := do
  let count (field : String) (value : Int) : Except Negative Nat :=
    if 0 ≤ value then .ok value.toNat else .error ⟨field, value⟩
  return ⟨← count "dim_var" var, ← count "dim_eq" eq, ← count "dim_ineq" ineq⟩

end Dims

end QuadOpt
