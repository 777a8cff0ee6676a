import QuadOpt.Adapter.Workspace
import QuadOpt.Form.Cone

/-!
# The interior point technique

Rows are in cone form, with the rows that cannot bind left out. The method accepts every setup but
may refuse changes, and reports each of its runs. It has a type of its own for compressed columns,
with a comparison of its own.
-/

namespace QuadOpt

namespace InteriorPoint

/-- Compressed columns as the method holds them: `m` rows and `n` columns. -/
structure Columns where
  m : Nat
  n : Nat
  colptr : List Nat
  rowval : List Nat
  nzval : List Float
  deriving DecidableEq, Repr

def Columns.samePattern (lhs rhs : Columns) : Bool :=
  lhs.m == rhs.m && lhs.n == rhs.n && lhs.colptr == rhs.colptr && lhs.rowval == rhs.rowval

/-- Hands the lists over as they are. -/
def Columns.ofCsc (s : Csc Float) : Columns := ⟨s.nrows, s.ncols, s.colptr, s.rowval, s.nzval⟩

end InteriorPoint

def interiorPointStatusText : Workspace.Status → String
  | .solved => "Solved"
  | .maxIterations => "MaxIterations"
  | .primalInfeasible => "PrimalInfeasible"
  | .dualInfeasible => "DualInfeasible"
  | .other verdict => verdict

def CheckedProblem.interiorPointForm (p : CheckedProblem) :
    Workspace.Form (List Float) (List Cone) :=
  let form := p.coneForm
  ⟨form.mat, form.rhs, form.cones⟩

@[reducible] def interiorPoint : Workspace.Technique where
  kind := .clarabel
  Rhs := List Float
  Cones := List Cone
  Settings := InteriorPointSettings
  Refusal := Empty
  UpdateRefusal := String
  form := CheckedProblem.interiorPointForm
  crossedRow? _ := none
  statusText := interiorPointStatusText
  refusalText := Empty.elim
  updateRefusalText refusal := refusal
  announces := true

end QuadOpt
