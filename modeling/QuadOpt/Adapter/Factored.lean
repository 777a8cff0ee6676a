import QuadOpt.Config
import QuadOpt.Form.Flat
import QuadOpt.Matrix.Triangular
import QuadOpt.Solve.Record

/-!
# The adapter for a factored objective

The method is called with the inverse factor of the objective and flat rows. A cold solve computes
the factor and keeps it together with the objective it belongs to; a warm solve uses the kept factor
when the objective has not changed.
-/

namespace QuadOpt.Factored

/-- The native method: the routines that the factor is composed of, and a solver that takes the factor
column by column, the linear term and the rows. All are functions of their arguments alone. -/
structure Backend extends Triangular.Routines Float where
  solve : (factor linear : List Float) → FlatRows → Except String (List Float)

/-- What an objective is factored into, or nothing if a routine finds nothing. -/
def Backend.factor (B : Backend) (objMat : Matrix Float) : Option (Matrix Float) :=
  B.inverseUpperFactor? objMat

inductive Call where
  | factor (objMat : Matrix Float)
  | solve (factor linear : List Float) (rows : FlatRows)
  deriving DecidableEq, Repr

structure Cached where
  objMat : Matrix Float
  inverse : Matrix Float
  deriving DecidableEq, Repr

structure State where
  config : FactoredConfig
  record : Record := {}
  factor : Option Cached := none
  deriving DecidableEq, Repr

namespace State

def new (config : FactoredConfig) : State := { config }

def setForce (s : State) (force : Bool) : State := { s with config := ⟨force⟩ }

/-- The start the next solve of the same shape would take. -/
def startState (s : State) : StartState :=
  if s.config.forceInitialize then .cold else s.record.warm.state

variable (B : Backend)

/-- Calls the solver; where it finds no point the stale one stands in. -/
def callBackend (s : State) (inverse : Matrix Float) (p : CheckedProblem) (rows : FlatRows) :
    Traced Call Attempt := do
  let entries := inverse.columnMajor
  Traced.call (.solve entries p.problem.objVec rows)
  match B.solve entries p.problem.objVec rows with
  | .ok x => return .solved x
  | .error status => return .failed (s.record.staleSolution p.dims.var) (.native status)

/-- No attempt is made when the kept factor belongs to another objective. -/
def hotSolve (s : State) (p : CheckedProblem) (rows : FlatRows) :
    Traced Call (Option (Attempt × Option Cached)) := do
  match s.factor with
  | none => return none
  | some cached =>
    if cached.objMat.sameValues p.problem.objMat then
      return some (← s.callBackend B cached.inverse p rows, s.factor)
    else
      Traced.log (.objectiveChanged .quadProg)
      return none

/-- Factors the objective, and keeps the factor whatever the solver then says. -/
def coldSolve (s : State) (p : CheckedProblem) (rows : FlatRows) :
    Traced Call (Attempt × Option Cached) := do
  Traced.call (.factor p.problem.objMat)
  match B.factor p.problem.objMat with
  | none => return (.failed (s.record.staleSolution p.dims.var) .notPositiveDefinite, none)
  | some inverse =>
    return (← s.callBackend B inverse p rows, some ⟨p.problem.objMat, inverse⟩)

def solve (s : State) (p : CheckedProblem) : Traced Call State :=
  if p.dims.var = 0 then do
    let record ← s.record.finish .quadProg p.dims [.cold] (.withoutVariables p)
    return { s with record }
  else do
    let rows := p.flatRows
    let hot ← match s.record.warm.plan p.dims s.config.forceInitialize with
      | .warm => s.hotSolve B p rows
      | .cold => pure none
    let (attempts, attempt, factor) ←
      hotThenCold .quadProg s.factor hot fun _ => s.coldSolve B p rows
    let record ← s.record.finish .quadProg p.dims attempts attempt
    return { s with record, factor }

end State

end QuadOpt.Factored
