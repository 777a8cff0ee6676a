import QuadOpt.Matrix.Stack
import QuadOpt.Problem

/-!
# Problems whose shapes agree with their dimensions

Each coefficient is compared with the size that the dimensions ask for, in listing order. The first
that differs is the error; if none does, the problem is checked and every later step can rely on it.
-/

namespace QuadOpt

inductive Shape where
  | matrix (rows cols : Nat)
  | vector (length : Nat)
  deriving DecidableEq, Repr

def Field.shape (d : Dims) : Field → Shape
  | .objMat => .matrix d.var d.var
  | .objVec => .vector d.var
  | .eqMat => .matrix d.eq d.var
  | .eqVec => .vector d.eq
  | .ineqMat => .matrix d.ineq d.var
  | .ineqVec => .vector d.ineq
  | .xMin => .vector d.var
  | .xMax => .vector d.var

namespace Problem

def Block.shape : Block → Shape
  | .matrix m => .matrix m.nrows m.ncols
  | .vector v => .vector v.length

/-- A coefficient whose size is not the one asked for. -/
structure Mismatch where
  field : Field
  expected : Shape
  actual : Shape
  deriving DecidableEq, Repr

/-- Names the coefficient, the size asked for and the size found. -/
def Mismatch.detail (m : Mismatch) : String :=
  let size (r c : Nat) := toString r ++ "x" ++ toString c
  match m.expected, m.actual with
  | .matrix r c, .matrix r' c' =>
    m.field.name ++ " must be " ++ size r c ++ ", got " ++ size r' c'
  | .vector n, .vector n' =>
    m.field.name ++ " must have length " ++ toString n ++ ", got " ++ toString n'
  | _, _ => m.field.name

/-- Whether a coefficient has the size asked for. -/
def mismatchAt? (p : Problem) (f : Field) : Option Mismatch :=
  if (p.block f).shape = f.shape p.dims then none
  else some ⟨f, f.shape p.dims, (p.block f).shape⟩

/-- The first coefficient, in listing order, whose size is not the one asked for. -/
def mismatch? (p : Problem) : Option Mismatch := Field.all.findSome? p.mismatchAt?

theorem mismatch?_eq_none_iff (p : Problem) :
    p.mismatch? = none ↔ ∀ f, (p.block f).shape = f.shape p.dims := by
  simp only [mismatch?, List.findSome?_eq_none_iff, mismatchAt?]
  constructor
  · intro h f
    have := h f f.mem_all
    split at this <;> simp_all
  · intro h f _
    simp [h f]

end Problem

/-- A problem whose eight coefficients have the sizes that its dimensions ask for. -/
structure CheckedProblem where
  problem : Problem
  fits : ∀ f, (problem.block f).shape = f.shape problem.dims

def Problem.check (p : Problem) : Except Problem.Mismatch CheckedProblem :=
  match h : p.mismatch? with
  | some m => .error m
  | none => .ok ⟨p, p.mismatch?_eq_none_iff.1 h⟩

/-- The check alone, without a solver. -/
def Problem.validate (p : Problem) : Except Problem.Mismatch Unit := p.check.map fun _ => ()

namespace CheckedProblem

variable (p : CheckedProblem)

def dims : Dims := p.problem.dims

theorem matrix_shape {f : Field} {m : Matrix Float} {r c : Nat}
    (hb : p.problem.block f = .matrix m) (hs : f.shape p.problem.dims = .matrix r c) :
    m.nrows = r ∧ m.ncols = c := by
  have := p.fits f
  rw [hb, hs] at this
  simpa [Problem.Block.shape] using this

theorem vector_shape {f : Field} {v : List Float} {n : Nat}
    (hb : p.problem.block f = .vector v) (hs : f.shape p.problem.dims = .vector n) :
    v.length = n := by
  have := p.fits f
  rw [hb, hs] at this
  simpa [Problem.Block.shape] using this

theorem objMat_shape : p.problem.objMat.nrows = p.dims.var ∧ p.problem.objMat.ncols = p.dims.var :=
  p.matrix_shape (f := .objMat) rfl rfl

theorem eqMat_shape : p.problem.eqMat.nrows = p.dims.eq ∧ p.problem.eqMat.ncols = p.dims.var :=
  p.matrix_shape (f := .eqMat) rfl rfl

theorem ineqMat_shape :
    p.problem.ineqMat.nrows = p.dims.ineq ∧ p.problem.ineqMat.ncols = p.dims.var :=
  p.matrix_shape (f := .ineqMat) rfl rfl

theorem objVec_length : p.problem.objVec.length = p.dims.var :=
  p.vector_shape (f := .objVec) rfl rfl

theorem eqVec_length : p.problem.eqVec.length = p.dims.eq := p.vector_shape (f := .eqVec) rfl rfl

theorem ineqVec_length : p.problem.ineqVec.length = p.dims.ineq :=
  p.vector_shape (f := .ineqVec) rfl rfl

theorem xMin_length : p.problem.xMin.length = p.dims.var := p.vector_shape (f := .xMin) rfl rfl

theorem xMax_length : p.problem.xMax.length = p.dims.var := p.vector_shape (f := .xMax) rfl rfl

/-- The equality rows, at the width of the problem. -/
def eqBlock : Matrix.Block Float p.dims.var := ⟨p.problem.eqMat, p.eqMat_shape.2⟩

/-- The inequality rows, at the width of the problem. -/
def ineqBlock : Matrix.Block Float p.dims.var := ⟨p.problem.ineqMat, p.ineqMat_shape.2⟩

def unitBlock : Matrix.Block Float p.dims.var := ⟨.identity p.dims.var, rfl⟩

/-- One row for each variable, with the sign turned. -/
def negatedUnitBlock : Matrix.Block Float p.dims.var :=
  ⟨(Matrix.identity p.dims.var).map (-·), rfl⟩

end CheckedProblem

end QuadOpt
