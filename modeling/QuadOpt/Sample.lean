import QuadOpt.Kind
import QuadOpt.Problem

/-!
# Sample problems

Small problems with known optima.
-/

namespace QuadOpt

/-- How far from the optimum a backend's answer may be. What is no method has no tolerance. -/
def Kind.tolerance : Kind → Float
  | .quadProg => 1e-6
  | .clarabel => 1e-4
  | .osqp | .totsu => 1e-3
  | .uninitialized | .any => 0

structure Sample where
  name : String
  problem : Problem
  solution : List Float
  deriving DecidableEq, Repr

namespace Sample

def infinity : Float := 1 / 0

/-- Identity objective with equalities, inequalities and a finite box. -/
def identityObjective : Sample where
  name := "identity_obj"
  problem :=
    { Problem.new ⟨6, 3, 2⟩ with
      objMat := .identity 6
      objVec := [1, 2, 3, 4, 5, 6]
      eqMat := .ofLists 6 [[1, -1, 1, 0, 3, 1], [-1, 0, -3, -4, 5, 6], [2, 5, 3, 0, 1, 0]]
      eqVec := [1, 2, 3]
      ineqMat := .ofLists 6 [[0, 1, 0, 1, 2, -1], [-1, 0, 2, 1, 1, 0]]
      ineqVec := [-1, 2.5]
      xMin := [-1000, -10000, 0, -1000, -1000, -1000]
      xMax := [10000, 100, 1.5, 100, 100, 1000] }
  solution := [1.7975426, -0.3381487, 0.1633880, -4.9884023, 0.6054943, -3.1155623]

def unconstrained : Sample where
  name := "unconstrained"
  problem :=
    { Problem.new ⟨2, 0, 0⟩ with
      objMat := .ofLists 2 [[3, 2], [2, 4]]
      objVec := [3, 1]
      xMin := [-infinity, -infinity]
      xMax := [infinity, infinity] }
  solution := [-1.25, 0.375]

def oneEquality : Sample where
  name := "only_eq_const"
  problem :=
    { Problem.new ⟨2, 1, 0⟩ with
      objMat := .ofLists 2 [[2, 0.5], [0.5, 1]]
      objVec := [1, 1]
      eqMat := .ofLists 2 [[1, 1]]
      eqVec := [1]
      xMin := [0, 0]
      xMax := [infinity, infinity] }
  solution := [0.25, 0.75]

def all : List Sample := [identityObjective, unconstrained, oneEquality]

/-- `x ≤ -1` together with `x ≥ 0`. -/
def infeasible : Problem :=
  { Problem.new ⟨1, 0, 1⟩ with
    objMat := .identity 1
    ineqMat := .ofLists 1 [[1]]
    ineqVec := [-1]
    xMin := [0] }

end Sample

end QuadOpt
