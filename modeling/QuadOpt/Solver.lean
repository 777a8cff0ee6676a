import QuadOpt.Config.Section
import QuadOpt.Method.Native

/-!
# Solvers

A solver is one of the four adapters. A problem is checked before anything else happens; one whose
coefficients do not fit its dimensions leaves the solver as it was.
-/

namespace QuadOpt

structure Backends where
  factored : Factored.Backend
  splitting : Workspace.Backend splitting
  interiorPoint : Workspace.Backend interiorPoint
  conic : Conic.Backend

/-- The native methods that come with the library. -/
def Backends.native : Backends :=
  ⟨Factored.native, Splitting.native, InteriorPoint.native, Conic.native⟩

inductive NativeCall where
  | factored (c : Factored.Call)
  | splitting (c : Workspace.Call splitting)
  | interiorPoint (c : Workspace.Call interiorPoint)
  | conic (c : Conic.Call)

inductive Solver (B : Backends) where
  | quadProg (s : Factored.State)
  | osqp (s : Workspace.State splitting B.splitting)
  | clarabel (s : Workspace.State interiorPoint B.interiorPoint)
  | totsu (s : Conic.State)

namespace Solver

variable {B : Backends}

def kind : Solver B → Kind
  | quadProg _ => .quadProg
  | osqp _ => .osqp
  | clarabel _ => .clarabel
  | totsu _ => .totsu

def record : Solver B → Record
  | quadProg s => s.record
  | osqp s => s.record
  | clarabel s => s.record
  | totsu s => s.record

def failed (s : Solver B) : Bool := s.record.failed

def lastStart (s : Solver B) : Option StartState := s.record.lastStart

/-- Every start that the latest solve tried, in order. -/
def lastAttempts (s : Solver B) : List StartState := s.record.attempts

def solution (s : Solver B) : List Float := s.record.solution

/-- The start that the next solve of the same shape would take. -/
def startState : Solver B → StartState
  | quadProg s => s.startState
  | osqp s => s.startState
  | clarabel s => s.startState
  | totsu s => s.startState

/-- Makes solves start cold, or no longer. A method that always does has nothing to change. -/
def setForce (force : Bool) : Solver B → Solver B
  | quadProg s => quadProg (s.setForce force)
  | osqp s => osqp (s.setForce force)
  | clarabel s => clarabel (s.setForce force)
  | totsu s => totsu s

def settings : Solver B → Config.Section
  | quadProg s => Config.quadProgSection s.config
  | osqp s => Config.osqpSection s.config
  | clarabel s => Config.clarabelSection s.config
  | totsu s => Config.totsuSection s.config

/-- Solves a problem whose shapes are known to agree. The result is the solver afterwards; the point
is its `solution`. -/
def solveChecked (s : Solver B) (p : CheckedProblem) : Traced NativeCall (Solver B) :=
  match s with
  | quadProg s => quadProg <$> (s.solve B.factored p).mapCalls .factored
  | osqp s => osqp <$> (s.solve p).mapCalls .splitting
  | clarabel s => clarabel <$> (s.solve p).mapCalls .interiorPoint
  | totsu s => totsu <$> (s.solve B.conic p).mapCalls .conic

/-- Solves a problem, or names the coefficient that does not fit. -/
def solve (s : Solver B) (p : Problem) : Except Problem.Mismatch (Traced NativeCall (Solver B)) :=
  p.check.map s.solveChecked

/-- The kind at info level; with `verbose` the warm-start state too, at debug level. -/
def info (s : Solver B) (verbose : Bool) (header : String) : List Log.Line :=
  .solverKind header s.kind ::
    if verbose then [.startState header s.startState s.lastAttempts] else []

/-- Whether the adapter hands sparse matrices to its method. -/
def convertsToSparse : Solver B → Bool
  | osqp _ | clarabel _ => true
  | quadProg _ | totsu _ => false

end Solver

end QuadOpt
