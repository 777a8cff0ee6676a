import QuadOpt.Config
import QuadOpt.Form.OneSided
import QuadOpt.Solve.Record

/-!
# The adapter for the conic method

The method takes a packed objective, one-sided rows that can bind, and equalities. It starts from
nothing every time.
-/

namespace QuadOpt

namespace Matrix

/-- The upper triangle column by column, the diagonal included. -/
def packedUpper {α : Type} (m : Matrix α) : List α :=
  (List.finRange m.ncols).flatMap fun c => (m.column c).take (c + 1)

end Matrix

namespace Conic

structure Data where
  /-- Upper triangle of the quadratic term, column by column. -/
  objective : List Float
  linear : List Float
  ineqMat : Matrix Float
  ineqRhs : List Float
  eqMat : Matrix Float
  eqRhs : List Float
  deriving DecidableEq, Repr

/-- The native method. The point may be followed by unknowns of its own; a failure is carried as the
method words it. -/
structure Backend where
  solve : Data → ConicSettings → Except String (List Float)

inductive Call where
  | solve (data : Data) (settings : ConicSettings)
  deriving DecidableEq, Repr

structure State where
  config : ConicSettings
  record : Record := {}
  deriving DecidableEq, Repr

def dataOf (p : CheckedProblem) : Data where
  objective := p.problem.objMat.packedUpper
  linear := p.problem.objVec
  ineqMat := p.oneSided.prune.mat
  ineqRhs := p.oneSided.prune.rhs
  eqMat := p.problem.eqMat
  eqRhs := p.problem.eqVec

namespace State

def new (config : ConicSettings) : State := { config }

def startState (_ : State) : StartState := .cold

variable (B : Backend)

/-- Takes as many unknowns as there are variables. -/
def coldSolve (s : State) (p : CheckedProblem) : Traced Call Attempt := do
  let data := dataOf p
  Traced.call (.solve data s.config)
  match B.solve data s.config with
  | .ok x => return .solved (x.take p.dims.var)
  | .error failure => return .failed (s.record.staleSolution p.dims.var) (.native failure)

def solve (s : State) (p : CheckedProblem) : Traced Call State := do
  let attempt ← if p.dims.var = 0 then pure (.withoutVariables p) else s.coldSolve B p
  let record ← s.record.finish .totsu p.dims [.cold] attempt
  return { s with record }

end State

end Conic

end QuadOpt
