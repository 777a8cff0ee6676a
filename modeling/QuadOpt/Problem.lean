import QuadOpt.Dims
import QuadOpt.Matrix

/-!
# Quadratic programs

Minimise `½ x·Qx + c·x` subject to `A x = b`, `C x ≤ d` and `x_min ≤ x ≤ x_max`. A problem holds the
eight coefficients together with the dimensions it declares; nothing forces the two to agree.
-/

namespace QuadOpt

/-- The eight coefficients, in the order in which they are listed, checked and written. -/
inductive Field where
  | objMat
  | objVec
  | eqMat
  | eqVec
  | ineqMat
  | ineqVec
  | xMin
  | xMax
  deriving DecidableEq, Repr

namespace Field

def all : List Field := [objMat, objVec, eqMat, eqVec, ineqMat, ineqVec, xMin, xMax]

def name : Field → String
  | objMat => "obj_mat"
  | objVec => "obj_vec"
  | eqMat => "eq_mat"
  | eqVec => "eq_vec"
  | ineqMat => "ineq_mat"
  | ineqVec => "ineq_vec"
  | xMin => "x_min"
  | xMax => "x_max"

def ofName? (s : String) : Option Field := all.find? (·.name == s)

theorem mem_all (f : Field) : f ∈ all := by cases f <;> decide

end Field

def largestFinite : Float := 1.7976931348623157e308

/-- A quadratic program with the dimensions it declares. -/
structure Problem where
  dims : Dims
  /-- The quadratic term `Q`. -/
  objMat : Matrix Float
  /-- The linear term `c`. -/
  objVec : List Float
  eqMat : Matrix Float
  eqVec : List Float
  ineqMat : Matrix Float
  ineqVec : List Float
  xMin : List Float
  xMax : List Float
  deriving DecidableEq, Repr

namespace Problem

/-- All coefficients zero, in a box as wide as finite numbers reach. -/
def new (dims : Dims) : Problem where
  dims := dims
  objMat := .zeros dims.var dims.var
  objVec := List.replicate dims.var 0
  eqMat := .zeros dims.eq dims.var
  eqVec := List.replicate dims.eq 0
  ineqMat := .zeros dims.ineq dims.var
  ineqVec := List.replicate dims.ineq 0
  xMin := List.replicate dims.var (-largestFinite)
  xMax := List.replicate dims.var largestFinite

instance : Inhabited Problem := ⟨new default⟩

inductive Block where
  | matrix (m : Matrix Float)
  | vector (v : List Float)
  deriving DecidableEq, Repr

def block (p : Problem) : Field → Block
  | .objMat => .matrix p.objMat
  | .objVec => .vector p.objVec
  | .eqMat => .matrix p.eqMat
  | .eqVec => .vector p.eqVec
  | .ineqMat => .matrix p.ineqMat
  | .ineqVec => .vector p.ineqVec
  | .xMin => .vector p.xMin
  | .xMax => .vector p.xMax

/-- Replaces a coefficient, whatever the new one's size. A matrix is not taken for a vector, nor a
vector for a matrix. -/
def replace (p : Problem) : Field → Block → Option Problem
  | .objMat, .matrix m => some { p with objMat := m }
  | .objVec, .vector v => some { p with objVec := v }
  | .eqMat, .matrix m => some { p with eqMat := m }
  | .eqVec, .vector v => some { p with eqVec := v }
  | .ineqMat, .matrix m => some { p with ineqMat := m }
  | .ineqVec, .vector v => some { p with ineqVec := v }
  | .xMin, .vector v => some { p with xMin := v }
  | .xMax, .vector v => some { p with xMax := v }
  | _, _ => none

def Block.sameValues : Block → Block → Bool
  | .matrix a, .matrix b => a.sameValues b
  | .vector a, .vector b => a == b
  | _, _ => false

/-- Equal dimensions and equal numbers in every coefficient. -/
def sameValues (a b : Problem) : Bool :=
  decide (a.dims = b.dims) && Field.all.all fun f => (a.block f).sameValues (b.block f)

end Problem

end QuadOpt
