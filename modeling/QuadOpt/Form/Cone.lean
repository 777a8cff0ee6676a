import QuadOpt.Form.OneSided

/-!
# Cone form

`mat · x + s = rhs` with the slack `s` in a product of cones: zero for the equalities, nonnegative
for the one-sided rows that can bind.
-/

namespace QuadOpt

/-- A cone for a run of consecutive rows. -/
inductive Cone where
  | zero (rows : Nat)
  | nonnegative (rows : Nat)
  deriving DecidableEq, Repr

def Cone.size : Cone → Nat
  | zero n => n
  | nonnegative n => n

/-- Rows, right-hand sides, and the cones of the slack in row order. -/
structure ConeForm where
  mat : Matrix Float
  rhs : List Float
  cones : List Cone
  deriving DecidableEq, Repr

namespace CheckedProblem

def boundedRows (p : CheckedProblem) : OneSided := p.oneSided.prune

theorem ncols_boundedRows (p : CheckedProblem) : p.boundedRows.mat.ncols = p.dims.var := by
  simp [boundedRows]

/-- Where no row is left at all, one row `0 · x ≤ 1` keeps the list of cones from being empty. -/
def coneForm (p : CheckedProblem) : ConeForm :=
  let bounded := p.boundedRows
  let cones :=
    (if 0 < p.dims.eq then [Cone.zero p.dims.eq] else []) ++
      (if 0 < bounded.numRows then [Cone.nonnegative bounded.numRows] else [])
  if cones.isEmpty then ⟨.zeros 1 p.dims.var, [1], [.nonnegative 1]⟩
  else
    { mat := .vstack [p.eqBlock, ⟨bounded.mat, p.ncols_boundedRows⟩]
      rhs := p.problem.eqVec ++ bounded.rhs
      cones := cones }

end CheckedProblem

end QuadOpt
