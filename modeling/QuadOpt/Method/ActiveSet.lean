import QuadOpt.Method.Coordinates

/-!
# The dual active-set method

A strictly convex program is solved from its unconstrained minimum. The constraint that is violated
most is brought in by moving along the direction that keeps all active constraints active; on the way
an active inequality whose multiplier would turn negative is let go. When no direction is left and
nothing can be let go, the constraints contradict each other.

The quadratic term enters through `J` with `J Jᵀ` its inverse, given by the columns of `J`. In the
coordinates `Jᵀ n` of the constraint normals `n` the method only ever projects onto the span of the
active ones.
-/

namespace QuadOpt.ActiveSet

open Coordinates

/-- A constraint `coeffs · x ≤ rhs`, or `coeffs · x = rhs` if it is an equation. -/
structure Row where
  coeffs : List Float
  rhs : Float
  equation : Bool
  deriving Repr

/-- What remains of the right-hand side at `x`. -/
def Row.slack (r : Row) (x : List Float) : Float := r.rhs - dot r.coeffs x

/-- By how much `x` misses the row; negative inside an inequality. -/
def Row.violation (r : Row) (x : List Float) : Float :=
  if r.equation then (r.slack x).abs else -(r.slack x)

/-- The rounding error to be expected in the slack. -/
def Row.noise (r : Row) (x : List Float) : Float :=
  1e-15 * (r.rhs.abs + (r.coeffs.zip x).foldl (fun acc (a, v) => acc + (a * v).abs) 0)

/-- An active constraint: its row, its normal in the coordinates of `J`, and its multiplier. -/
structure Active where
  index : Nat
  equation : Bool
  normal : List Float
  multiplier : Float
  deriving Repr

/-- An orthonormal basis of the active normals. Normal `k` is the combination of the first `k + 1`
units with the coefficients of column `k`. -/
structure Basis where
  units : List (List Float) := []
  columns : List (List Float) := []

namespace Basis

/-- Coefficients of `d` along the units, and what is left of it. -/
def project (b : Basis) (d : List Float) : List Float × List Float :=
  b.units.foldl (fun (hs, rest) u =>
    let h := dot u rest
    (hs ++ [h], along rest (-h) u)) ([], d)

/-- Projects twice, so that what is left is orthogonal to the units up to rounding. -/
def split (b : Basis) (d : List Float) : List Float × List Float :=
  let (first, rest) := b.project d
  let (second, rest) := b.project rest
  (add first second, rest)

def extend (b : Basis) (d : List Float) : Basis :=
  let (hs, rest) := b.split d
  let norm := (dot rest rest).sqrt
  ⟨b.units ++ [scale (1 / norm) rest], b.columns ++ [hs ++ [norm]]⟩

def ofNormals (normals : List (List Float)) : Basis := normals.foldl extend {}

/-- The weights of the normals in the combination of units with coefficients `hs`, found from the
last one down. -/
def weights (b : Basis) (hs : List Float) : List Float :=
  (b.columns.zipIdx.reverse.foldl (fun (ws, hs) (column, k) =>
    let w := hs.getD k 0 / column.getD k 1
    (w :: ws, along hs (-w) (column ++ List.replicate (hs.length - column.length) 0)))
    (([] : List Float), hs)).1

end Basis

structure State where
  x : List Float
  active : List Active
  /-- Rows that are met up to rounding and are not looked at again. -/
  waived : List Nat
  deriving Repr

inductive Outcome where
  | optimal (x : List Float)
  | infeasible
  deriving Repr

/-- A program: columns of `J`, the rows, and the violation that is put up with. -/
structure Program where
  size : Nat
  columns : List (List Float)
  rows : List Row
  tolerance : Float

def Program.coordinates (p : Program) (n : List Float) : List Float := p.columns.map (dot · n)

def Program.direction (p : Program) (w : List Float) : List Float := combine p.size w p.columns

/-- The row that is violated most, equations before inequalities. -/
def Program.worst? (p : Program) (s : State) : Option (Nat × Row) :=
  let candidates := p.rows.zipIdx.filterMap fun (r, i) =>
    let v := r.violation s.x
    if p.tolerance < v && !(s.active.any (·.index == i)) && !(s.waived.contains i) then
      some (r, i, v)
    else none
  let worst (rows : List (Row × Nat × Float)) : Option (Nat × Row) :=
    (rows.foldl (fun best (r, i, v) =>
      match best with
      | some (_, _, u) => if u < v then some (i, r, v) else best
      | none => some (i, r, v)) none).map fun (i, r, _) => (i, r)
  let (equations, inequalities) := candidates.partition (·.1.equation)
  worst (if equations.isEmpty then inequalities else equations)

/-- The active inequality that limits a dual step, and the length at which its multiplier is zero. -/
def blocking? (active : List Active) (weights : List Float) : Option (Nat × Float) :=
  (active.zip weights).foldl (fun best (a, w) =>
    if a.equation || !(0 < w) then best
    else
      let t := a.multiplier / w
      match best with
      | some (_, u) => if t < u then some (a.index, t) else best
      | none => some (a.index, t)) none

inductive Entered where
  | entered (s : State)
  | contradiction

/-- Brings in the row with index `i`, whose normal points into the feasible side. The multiplier it
has gathered so far is carried along. Each round either ends or lets one inequality go. -/
def Program.enter (p : Program) (i : Nat) (r : Row) :
    (rounds : Nat) → (multiplier : Float) → State → Entered
  | 0, _, _ => .contradiction
  | rounds + 1, multiplier, s =>
    -- Feasibility is approached along the inner normal, whichever side of an equation `x` is on.
    let inner := if r.slack s.x < 0 then scale (-1) r.coeffs else r.coeffs
    let missing := (r.slack s.x).abs
    let d := p.coordinates inner
    let basis := Basis.ofNormals (s.active.map (·.normal))
    let (hs, rest) := basis.split d
    let weights := basis.weights hs
    let block := blocking? s.active weights
    let gain := dot rest rest
    let shifted (t : Float) : List Active :=
      (s.active.zip weights).map fun (a, w) => { a with multiplier := a.multiplier - t * w }
    if missing = 1 / 0 then .contradiction
    else if gain ≤ 1e-20 * dot d d then
      -- No direction is left: only the multipliers can move.
      match block with
      | some (j, t) =>
        let active := (shifted t).filter (·.index ≠ j)
        p.enter i r rounds (multiplier + t) { s with active }
      | none =>
        if missing ≤ r.noise s.x then .entered { s with waived := i :: s.waived }
        else .contradiction
    else
      let full := missing / gain
      match block with
      | some (j, t) =>
        if t < full then
          let x := along s.x t (p.direction rest)
          let active := (shifted t).filter (·.index ≠ j)
          p.enter i r rounds (multiplier + t) { s with x, active }
        else
          .entered
            { s with
              x := along s.x full (p.direction rest)
              active := shifted full ++ [⟨i, r.equation, d, multiplier + full⟩] }
      | none =>
        .entered
          { s with
            x := along s.x full (p.direction rest)
            active := shifted full ++ [⟨i, r.equation, d, multiplier + full⟩] }

/-- Brings in violated rows until none is left. Every round raises the dual objective, so no set of
active rows comes back; the bound on the rounds is generous, and a run that exhausts it is given up
as infeasible. -/
def Program.run (p : Program) : (rounds : Nat) → State → Outcome
  | 0, _ => .infeasible
  | rounds + 1, s =>
    match p.worst? s with
    | none => .optimal s.x
    | some (i, r) =>
      match p.enter i r (p.rows.length + 2) 0 s with
      | .entered s => p.run rounds s
      | .contradiction => .infeasible

/-- The minimum of `½ x·Qx + c·x` over the rows. -/
def Program.solve (p : Program) (linear : List Float) : Outcome :=
  let start := p.direction (scale (-1) (p.coordinates linear))
  p.run (50 * (p.rows.length + 2)) ⟨start, [], []⟩

end QuadOpt.ActiveSet
