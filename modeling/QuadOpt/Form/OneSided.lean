import QuadOpt.Problem.Checked

/-!
# One-sided rows

The box is folded into the inequalities: `[C; I; -I] x ≤ [d; x_max; -x_min]`. Rows whose right-hand
side is effectively infinite bind nothing and can be dropped.
-/

namespace QuadOpt

structure OneSided where
  mat : Matrix Float
  rhs : List Float
  deriving DecidableEq, Repr

/-- From this magnitude on a bound counts as infinite. -/
def infinityBound : Float := 1e20

namespace OneSided

def numRows (b : OneSided) : Nat := b.rhs.length

/-- A right-hand side that can bind. A value that is no number compares with nothing and does not
count. -/
def binds (rhs : Float) : Bool := rhs < infinityBound

/-- The rows that can bind, in their order. -/
def prune (b : OneSided) : OneSided :=
  let kept := b.rhs.filter binds
  if kept.length = b.numRows then b
  else ⟨⟨b.mat.ncols, ((b.mat.rows.zip b.rhs).filter (binds ·.2)).map (·.1)⟩, kept⟩

@[simp] theorem ncols_prune (b : OneSided) : b.prune.mat.ncols = b.mat.ncols := by
  unfold prune
  dsimp only
  split <;> rfl

end OneSided

namespace CheckedProblem

/-- Inequalities first, then the upper bounds, then the lower bounds. -/
def oneSided (p : CheckedProblem) : OneSided where
  mat := .vstack [p.ineqBlock, p.unitBlock, p.negatedUnitBlock]
  rhs := p.problem.ineqVec ++ p.problem.xMax ++ p.problem.xMin.map (-·)

@[simp] theorem ncols_oneSided (p : CheckedProblem) : p.oneSided.mat.ncols = p.dims.var := rfl

end CheckedProblem

end QuadOpt
