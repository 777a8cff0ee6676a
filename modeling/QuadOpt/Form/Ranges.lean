import QuadOpt.Problem.Checked

/-!
# Two-sided rows

Equalities and inequalities as rows `lower ≤ mat · x ≤ upper`: an equality is pinned from both sides,
an inequality is open below. The box can be added as rows of the identity.
-/

namespace QuadOpt

/-- Rows `lower ≤ mat · x ≤ upper`. -/
structure Ranges where
  mat : Matrix Float
  lower : List Float
  upper : List Float
  deriving DecidableEq, Repr

namespace Ranges

def numRows (r : Ranges) : Nat := r.lower.length

/-- The first place where the lower bound exceeds the upper one. -/
def firstCrossed? (lower upper : List Float) : Option Nat :=
  (lower.zip upper).findIdx? fun (lo, hi) => hi < lo

/-- The first row that no point can meet. -/
def firstCrossedRow? (r : Ranges) : Option Nat := firstCrossed? r.lower r.upper

end Ranges

def negativeInfinity : Float := -1 / 0

namespace CheckedProblem

def stackedRanges (p : CheckedProblem) : Ranges where
  mat := .vstack [p.eqBlock, p.ineqBlock]
  lower := p.problem.eqVec ++ List.replicate p.dims.ineq negativeInfinity
  upper := p.problem.eqVec ++ p.problem.ineqVec

/-- Equality rows, then inequality rows, then one row for the bounds of each variable. -/
def stackedRangesWithBounds (p : CheckedProblem) : Ranges where
  mat := .vstack [p.eqBlock, p.ineqBlock, p.unitBlock]
  lower := p.problem.eqVec ++ List.replicate p.dims.ineq negativeInfinity ++ p.problem.xMin
  upper := p.problem.eqVec ++ p.problem.ineqVec ++ p.problem.xMax

end CheckedProblem

end QuadOpt
