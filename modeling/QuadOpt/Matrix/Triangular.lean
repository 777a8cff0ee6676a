import QuadOpt.Matrix

/-!
# Triangular systems and the factor of an objective

The inverse upper factor of an objective is composed of two routines of linear algebra: one finds the
lower factor `L` of a positive definite matrix `L Lᵀ`, the other solves an upper triangular system.
The composition takes the routines as they come.

Routines by substitution come with it. The rows of `L` are found one after the other: the part left of
the diagonal solves a triangular system with the rows already known. Only the lower triangle of the
matrix is read. The definitions hold over any numbers with the four operations, so that laws about
them can be stated where arithmetic is exact.
-/

namespace QuadOpt

/-- The square root of a positive number, and nothing for all others. -/
class PositiveRoot (α : Type) where
  root? : α → Option α

/-- A zero and a value that is no number have no positive root. -/
instance : PositiveRoot Float where
  root? v := if 0 < v then some v.sqrt else none

namespace Triangular

variable {α : Type}

/-! ## The factor over given routines -/

structure Routines (α : Type) where
  /-- The lower factor of a symmetric matrix, or nothing where there is none. -/
  lowerFactor? : Matrix α → Option (Matrix α)
  /-- The solution `X` of `U X = B` for an upper triangular `U`, or nothing where there is none. -/
  solveUpper? : (u b : Matrix α) → Option (Matrix α)

/-- The inverse of `R` where the matrix is `Rᵀ R` with `R` upper triangular. -/
def Routines.inverseUpperFactor? [OfNat α 0] [OfNat α 1] (r : Routines α) (m : Matrix α) :
    Option (Matrix α) := do
  let l ← r.lowerFactor? m
  r.solveUpper? l.transpose (.identity m.nrows)

/-! ## Substitution -/

/-- A row of a lower triangular matrix: the entries left of the diagonal and the one on it. -/
structure Row (α : Type) where
  left : List α
  diagonal : α
  deriving Repr

/-- A lower triangular matrix by its rows, the `i`-th with `i` entries on its left. -/
abbrev Lower (α : Type) := List (Row α)

/-- `b` less the products of `coefficients` and `values`, subtracted from left to right. -/
def residual [Sub α] [Mul α] (b : α) (coefficients values : List α) : α :=
  (coefficients.zip values).foldl (fun acc p => acc - p.1 * p.2) b

/-- Goes on solving `L y = b` when `known` are the first unknowns. -/
def forwardFrom [Sub α] [Mul α] [Div α] (known : List α) : Lower α → List α → List α
  | row :: rows, b :: bs =>
    forwardFrom (known ++ [residual b row.left known / row.diagonal]) rows bs
  | _, _ => known

def forward [Sub α] [Mul α] [Div α] (l : Lower α) (b : List α) : List α := forwardFrom [] l b

/-- The lower triangle of a square matrix by its rows. -/
def lowerPart (m : Matrix α) : List (Row α) :=
  m.toLists.zipIdx.filterMap fun (row, i) => row[i]?.map fun d => ⟨row.take i, d⟩

/-- Goes on factoring when `done` are the first rows of the factor. -/
def choleskyFrom [Sub α] [Mul α] [Div α] [PositiveRoot α] (done : Lower α) :
    List (Row α) → Option (Lower α)
  | [] => some done
  | row :: rows =>
    let left := forward done row.left
    match PositiveRoot.root? (residual row.diagonal left left) with
    | none => none
    | some d => choleskyFrom (done ++ [⟨left, d⟩]) rows

/-- The lower factor of a symmetric matrix given by its lower triangle, or nothing when a pivot is
not positive. -/
def cholesky? [Sub α] [Mul α] [Div α] [PositiveRoot α] (m : Matrix α) : Option (Lower α) :=
  choleskyFrom [] (lowerPart m)

/-- The matrix with the given rows, and zeros to the right of the diagonal. -/
def Lower.toMatrix [OfNat α 0] (l : Lower α) : Matrix α :=
  .ofLists l.length (l.map fun row => row.left ++ [row.diagonal])

/-- Rows and columns from the last to the first. -/
def reversed (m : Matrix α) : Matrix α := ⟨m.ncols, (m.rows.map (·.reverse)).reverse⟩

/-- Solves column by column. Read from its last row and column on, an upper triangular system is a
lower triangular one. No pivot may be zero. -/
def backward? [OfNat α 0] [BEq α] [Sub α] [Mul α] [Div α] (u b : Matrix α) : Option (Matrix α) :=
  let rows := lowerPart (reversed u)
  if rows.any (·.diagonal == 0) then none
  else
    let columns := (List.finRange b.ncols).map fun c => (forward rows (b.column c).reverse).reverse
    some (Matrix.ofLists b.nrows columns).transpose

def substitution [OfNat α 0] [BEq α] [Sub α] [Mul α] [Div α] [PositiveRoot α] : Routines α where
  lowerFactor? m := (cholesky? m).map Lower.toMatrix
  solveUpper? := backward?

end Triangular

end QuadOpt
