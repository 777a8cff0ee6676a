import QuadOpt.Matrix.Triangular
import QuadOpt.Method.ActiveSet

/-!
# Proximal steps

A program that is convex but not strictly so is solved by a sequence of strictly convex ones: each
step minimises the objective plus a small multiple of the squared distance from the point before. The
points converge to a minimum where there is one. Where there is none they run off along a direction
in which the objective falls for ever, and that direction can be checked.
-/

namespace QuadOpt.Proximal

open Coordinates ActiveSet

/-- A convex program: quadratic term, linear term and rows. -/
structure Program where
  quadratic : Matrix Float
  linear : List Float
  rows : List Row

inductive Verdict where
  | optimal (x : List Float)
  | infeasible
  | unbounded
  | iterationLimit (x : List Float)
  deriving Repr

def weight : Float := 1e-6

def shiftDiagonal (t : Float) (m : Matrix Float) : Matrix Float :=
  .ofFn m.nrows m.ncols fun r c => if r.1 = c.1 then m.entry r c + t else m.entry r c

/-- Whether no direction of negative curvature exists, up to the weight of a proximal step. -/
def isConvex (quadratic : Matrix Float) : Bool :=
  (Triangular.cholesky? (shiftDiagonal weight quadratic)).isSome

def Program.regularised? (p : Program) : Option ActiveSet.Program :=
  (Triangular.substitution.inverseUpperFactor? (shiftDiagonal weight p.quadratic)).map fun j =>
    { size := p.linear.length
      columns := j.transpose.toLists
      rows := p.rows
      tolerance := 1e-8 }

/-- Whether the objective falls for ever along `d` and no row stands in the way. -/
def Program.recedes (p : Program) (d : List Float) : Bool :=
  let small := 1e-7 * maxNorm d
  let flat := p.quadratic.toLists.all fun row => (dot row d).abs ≤ small
  let free := p.rows.all fun r =>
    let v := dot r.coeffs d
    if r.equation then v.abs ≤ small else v ≤ small
  1 < maxNorm d && flat && free && dot p.linear d < 0

/-- A point, and the verdict once one is reached. -/
structure State where
  x : List Float
  verdict : Option Verdict := none

structure Outcome where
  verdict : Verdict
  /-- How many steps were made. -/
  iterations : Nat
  deriving Repr

def Program.step (p : Program) (regularised : ActiveSet.Program) (s : State) : State :=
  match regularised.solve (along p.linear (-weight) s.x) with
  | .infeasible => { s with verdict := some .infeasible }
  | .optimal x =>
    let d := sub x s.x
    if maxNorm d ≤ 1e-9 * (1 + maxNorm x) then ⟨x, some (.optimal x)⟩
    else if p.recedes d then ⟨x, some .unbounded⟩
    else ⟨x, none⟩

/-- At most `iterations` steps after the `made` ones. A verdict is read off at the start of an
iteration, so at least two are needed for one. -/
def Program.iterate (p : Program) (regularised : ActiveSet.Program) (made : Nat) :
    (iterations : Nat) → State → Outcome
  | 0, s => ⟨.iterationLimit s.x, made⟩
  | iterations + 1, s =>
    match s.verdict with
    | some v => ⟨v, made⟩
    | none => p.iterate regularised (made + 1) iterations (p.step regularised s)

/-- Progress is over long before this many steps. -/
def enough : Nat := 1000

/-- Runs from `start` with at most `maxIter` iterations. A term that is not convex makes no
progress. -/
def Program.solve (p : Program) (maxIter : Nat) (start : List Float) : Outcome :=
  match p.regularised? with
  | none => ⟨.iterationLimit start, 0⟩
  | some regularised => p.iterate regularised 0 (min maxIter enough) ⟨start, none⟩

end QuadOpt.Proximal
