import QuadOpt.Kind
import QuadOpt.Problem.Dump
import QuadOpt.Solve.Reason
import QuadOpt.Solve.WarmStart

/-!
# Log lines

Everything the library reports on the way, as data. Wording, level and place of origin are functions
of the line. Durations are not recorded and stand as `_`.
-/

namespace QuadOpt

namespace Log

/-- How urgent a line is, the most urgent first. -/
inductive Level where
  | error
  | warn
  | info
  | debug
  | trace
  deriving DecidableEq, Repr, Ord

def Level.name : Level → String
  | error => "ERROR"
  | warn => "WARN"
  | info => "INFO"
  | debug => "DEBUG"
  | trace => "TRACE"

inductive Line where
  | problemDims (header : String) (dims : Dims)
  | coefficients (header : String) (problem : Problem)
  | solverKind (header : String) (kind : Kind)
  | startState (header : String) (state : StartState) (attempts : List StartState)
  /-- Stored entries of the objective and of the constraint matrix. -/
  | sparseConversion (kind : Kind) (objective constraints : Nat)
  | objectiveChanged (kind : Kind)
  | patternChanged (kind : Kind)
  | hotStartFailed (kind : Kind) (reason : Reason)
  | finished (kind : Kind) (iterations : Nat) (status : String)
  | solveFailed (kind : Kind) (dims : Dims) (reason : Reason)
  deriving DecidableEq, Repr

namespace Line

def level : Line → Level
  | problemDims .. | solverKind .. => .info
  | solveFailed .. => .warn
  | _ => .debug

def text : Line → String
  | problemDims header dims => header ++ dims.text
  | coefficients header problem => header ++ "coefficients:\n" ++ problem.dump
  | solverKind header kind => header ++ "solver kind: " ++ kind.name
  | startState header state attempts =>
    header ++ "start state: " ++ state.name ++ ", last attempts: " ++
      StartState.listText attempts
  | sparseConversion kind p a =>
    kind.name ++ " sparse conversion took _ (P nnz " ++ toString p ++ ", A nnz " ++ toString a ++ ")"
  | objectiveChanged kind => kind.name ++ " objective changed, reinitializing"
  | patternChanged kind => kind.name ++ " sparsity pattern changed, reinitializing"
  | hotStartFailed kind reason =>
    kind.name ++ " hot start failed (" ++ reason.text ++ "), reinitializing"
  | finished kind iterations status =>
    kind.name ++ " finished in " ++ toString iterations ++ " iterations: " ++ status
  | solveFailed kind dims reason =>
    kind.name ++ " solve failed (" ++ dims.text ++ "): " ++ reason.text

/-- The part of the program that speaks for a kind. -/
def backendOrigin : Kind → String
  | .quadProg => "quadprog_backend"
  | .osqp => "osqp_backend"
  | .clarabel => "clarabel_backend"
  | .totsu => "totsu_backend"
  | _ => "solver"

/-- The dotted path under which a line can be filtered. -/
def origin : Line → String
  | problemDims .. | coefficients .. => "qpcollection_types::problem"
  | sparseConversion kind .. | objectiveChanged kind | patternChanged kind | finished kind .. =>
    "qpcollection_solver::" ++ backendOrigin kind
  | _ => "qpcollection_solver::solver"

def levelText (l : Line) : String := l.level.name ++ " " ++ l.text

def fullText (l : Line) : String := l.level.name ++ " " ++ l.origin ++ ": " ++ l.text

end Line

end Log

/-- The dimensions at info level; with `verbose` the dump too, at debug level. -/
def Problem.info (p : Problem) (verbose : Bool) (header : String) : List Log.Line :=
  .problemDims header p.dims :: if verbose then [.coefficients header p] else []

end QuadOpt
