import QuadOpt.Adapter.Workspace
import QuadOpt.Form.Ranges

/-!
# The splitting technique

Rows are two-sided, the box among them. Bounds are clipped to the magnitude that the method takes for
infinite, and rows with crossed bounds never reach it. The method accepts every change.
-/

namespace QuadOpt

structure Bounds where
  lower : List Float
  upper : List Float
  deriving DecidableEq, Repr

/-- The splitting method takes a bound of this magnitude for infinite. -/
def splittingInfinity : Float := 1e30

/-- Keeps a bound within what the method takes; a value that is no number stays as it is. -/
def clip (v : Float) : Float :=
  if v < -splittingInfinity then -splittingInfinity
  else if splittingInfinity < v then splittingInfinity
  else v

def splittingStatusText : Workspace.Status → String
  | .solved => "solved"
  | .maxIterations => "maximum iterations reached"
  | .primalInfeasible => "primal infeasible"
  | .dualInfeasible => "dual infeasible"
  | .other verdict => verdict

def CheckedProblem.splittingForm (p : CheckedProblem) : Workspace.Form Bounds Unit :=
  let ranges := p.stackedRangesWithBounds
  ⟨ranges.mat, ⟨ranges.lower.map clip, ranges.upper.map clip⟩, ()⟩

@[reducible] def splitting : Workspace.Technique where
  kind := .osqp
  Rhs := Bounds
  Cones := Unit
  Settings := SplittingSettings
  Refusal := String
  UpdateRefusal := Empty
  form := CheckedProblem.splittingForm
  crossedRow? p := p.stackedRangesWithBounds.firstCrossedRow?
  statusText := splittingStatusText
  refusalText refusal := refusal
  updateRefusalText := Empty.elim
  announces := false

end QuadOpt
