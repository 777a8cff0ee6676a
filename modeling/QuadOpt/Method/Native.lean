import QuadOpt.Adapter.Conic
import QuadOpt.Adapter.Factored
import QuadOpt.Adapter.InteriorPoint
import QuadOpt.Adapter.Splitting
import QuadOpt.Method.Proximal

/-!
# The native methods

Each adapter's native method, in terms of the two numerical ones: the active-set method for a
factored objective, proximal steps for the others. The adapters themselves know nothing of this.
-/

namespace QuadOpt

open ActiveSet (Row)

/-- Cuts a list into pieces of length `n`. A last piece that is too short is left out. -/
def chunks {α : Type} (n : Nat) : (count : Nat) → List α → List (List α)
  | 0, _ => []
  | count + 1, l => l.take n :: chunks n count (l.drop n)

namespace Factored

def infeasibleText : String := "optimization is infeasible"

/-- A row counts as violated when it is missed by more than the spacing of doubles at one. -/
def rowTolerance : Float := 2.220446049250313e-16

def solveRows (factor linear : List Float) (rows : FlatRows) : Except String (List Float) :=
  let n := linear.length
  let program : ActiveSet.Program :=
    { size := n
      columns := chunks n n factor
      rows := ((chunks n rows.rhs.length rows.entries).zip rows.rhs).zipIdx.map
        fun ((coeffs, rhs), i) => ⟨coeffs, rhs, i < rows.equalities⟩
      tolerance := rowTolerance }
  match program.solve linear with
  | .optimal x => .ok x
  | .infeasible => .error infeasibleText

def native : Backend where
  toRoutines := Triangular.substitution
  solve := solveRows

end Factored

namespace Csc

/-- All entries of a stored matrix, row by row; what is not stored is zero. -/
def toDense (s : Csc Float) : List (List Float) :=
  let blank := Array.replicate s.nrows (Array.replicate s.ncols (0 : Float))
  let filled := s.triples.foldl (fun a (r, c, v) => a.modify r (·.setIfInBounds c v)) blank
  filled.toList.map (·.toList)

end Csc

/-- The symmetric matrix with the given upper triangle. -/
def symmetricFromUpper (n : Nat) (entry : Nat → Nat → Float) : Matrix Float :=
  .ofFn n n fun r c => if r.1 ≤ c.1 then entry r c else entry c r

namespace Workspace

def Data.quadratic {T : Technique} (d : Data T) : Matrix Float :=
  let dense := d.objective.toDense.map (·.toArray) |>.toArray
  symmetricFromUpper d.objective.ncols fun r c => (dense.getD r #[]).getD c 0

/-- The end of a native run; every end leaves a point if `always`. -/
def Finish.ofOutcome (always : Bool) (at_ : List Float) (o : Proximal.Outcome) : Finish :=
  let elsewhere := if always then some at_ else none
  match o.verdict with
  | .optimal x => ⟨.solved, some x, o.iterations⟩
  | .iterationLimit x => ⟨.maxIterations, some x, o.iterations⟩
  | .infeasible => ⟨.primalInfeasible, elsewhere, o.iterations⟩
  | .unbounded => ⟨.dualInfeasible, elsewhere, o.iterations⟩

end Workspace

namespace Splitting

open Workspace

/-- Two-sided rows as one-sided ones. An infinite bound gives no row. -/
def rowsOf (entries : List (List Float)) (b : Bounds) : List Row :=
  (entries.zip (b.lower.zip b.upper)).flatMap fun (coeffs, lo, hi) =>
    if lo == hi then [⟨coeffs, lo, true⟩]
    else
      (if hi < splittingInfinity then [⟨coeffs, hi, false⟩] else []) ++
        (if -splittingInfinity < lo then [⟨coeffs.map (-·), -lo, false⟩] else [])

/-- Some lower bound is not at most its upper bound. -/
def boundsInvalid : String :=
  "DataInvalid(\"all elements of l must be less than or equal to the corresponding element of u\")"

def settingsInvalid : String := "SettingsInvalid"

def nonConvex : String := "NonConvex"

/-- Bounds are looked at first, then settings, then the curvature of the objective. -/
def setup (d : Data splitting) (s : SplittingSettings) : Except String (List Float) :=
  if !((d.rhs.lower.zip d.rhs.upper).all fun (lo, hi) => lo ≤ hi) then .error boundsInvalid
  else if s.maxIter = 0 ∨ s.epsAbs < 0 ∨ s.epsRel < 0 ∨ (s.epsAbs == 0 && s.epsRel == 0) then
    .error settingsInvalid
  else if !Proximal.isConvex d.quadratic then .error nonConvex
  else .ok (List.replicate d.linear.length 0)

/-- Goes on from the point where the run before ended. -/
def run (d : Data splitting) (s : SplittingSettings) (x : List Float) : Finish × List Float :=
  let program : Proximal.Program := ⟨d.quadratic, d.linear, rowsOf d.constraints.toDense d.rhs⟩
  let finish := Finish.ofOutcome false x (program.solve s.maxIter.toNat x)
  (finish, finish.point.getD x)

def native : Backend splitting where
  Memory := List Float
  setup := setup
  update _ _ x _ := .ok x
  run := run

end Splitting

namespace InteriorPoint

open Workspace

/-- Which rows are equations, by the cones in row order. -/
def equations (cones : List Cone) : List Bool :=
  cones.flatMap fun
    | .zero n => List.replicate n true
    | .nonnegative n => List.replicate n false

def badFormat : String := "Data formatting error"

/-- New matrices must have the stored positions of the live ones. -/
def update (d : Data interiorPoint) (changes : List (Change interiorPoint)) : Except String Unit :=
  let changed := changes.foldl Data.apply d
  if changed.objective.samePattern d.objective && changed.constraints.samePattern d.constraints then
    .ok ()
  else .error badFormat

def run (d : Data interiorPoint) (s : InteriorPointSettings) : Finish :=
  let rows := (d.constraints.toDense.zip (d.rhs.zip (equations d.cones))).map
    fun (coeffs, rhs, equation) => (⟨coeffs, rhs, equation⟩ : Row)
  let origin := List.replicate d.linear.length 0
  let program : Proximal.Program := ⟨d.quadratic, d.linear, rows⟩
  Finish.ofOutcome true origin (program.solve s.maxIter.toNat origin)

def native : Backend interiorPoint where
  Memory := Unit
  setup _ _ := .ok ()
  update d _ _ changes := update d changes
  run d s _ := (run d s, ())

end InteriorPoint

namespace Conic

/-- The symmetric matrix packed as its upper triangle, column by column. -/
def unpack (n : Nat) (packed : List Float) : Matrix Float :=
  let entries := packed.toArray
  symmetricFromUpper n fun r c => entries.getD (c * (c + 1) / 2 + r) 0

def infeasibleText : String := "Infeasible: found an infeasibile certificate"

def unboundedText : String := "Unbounded: found an unbounded certificate"

def excessIterationsText : String := "ExcessIter: exceed max iterations"

def solveData (d : Data) (s : ConicSettings) : Except String (List Float) :=
  let rows (equation : Bool) (m : Matrix Float) (rhs : List Float) : List Row :=
    (m.toLists.zip rhs).map fun (coeffs, b) => ⟨coeffs, b, equation⟩
  let n := d.linear.length
  let program : Proximal.Program :=
    { quadratic := unpack n d.objective
      linear := d.linear
      rows := rows true d.eqMat d.eqRhs ++ rows false d.ineqMat d.ineqRhs }
  match (program.solve s.maxIter.toNat (List.replicate n 0)).verdict with
  | .optimal x => .ok x
  | .infeasible => .error infeasibleText
  | .unbounded => .error unboundedText
  | .iterationLimit _ => .error excessIterationsText

def native : Backend := ⟨solveData⟩

end Conic

end QuadOpt
