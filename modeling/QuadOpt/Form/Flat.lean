import QuadOpt.Form.OneSided

/-!
# Flat rows

Equalities first, then all one-sided rows, written out row by row in one list.
-/

namespace QuadOpt

/-- The entries of all rows in one list, their right-hand sides, and how many of the first rows are
equalities. -/
structure FlatRows where
  entries : List Float
  rhs : List Float
  equalities : Nat
  deriving DecidableEq, Repr

/-- `[A; C; I; -I]` with right-hand sides `[b; d; x_max; -x_min]`. -/
def CheckedProblem.flatRows (p : CheckedProblem) : FlatRows where
  entries := (Matrix.vstack [p.eqBlock, ⟨p.oneSided.mat, p.ncols_oneSided⟩]).rowMajor
  rhs := p.problem.eqVec ++ p.oneSided.rhs
  equalities := p.dims.eq

end QuadOpt
