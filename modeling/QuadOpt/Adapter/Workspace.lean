import QuadOpt.Config
import QuadOpt.Matrix.Sparse
import QuadOpt.Solve.Record

/-!
# Adapters that keep a workspace

Two methods take a sparse objective and sparse rows, and keep a workspace from one solve to the
next. A cold solve sets a new workspace up. A warm solve overwrites the data of the live one, part by
part, and may do so only if the stored positions of both matrices are those of the solve before. The
method may refuse even then, and the warm solve has failed.

The adapter is written once. What sets the two methods apart is a `Technique`.
-/

namespace QuadOpt.Workspace

inductive Status where
  | solved
  | maxIterations
  | primalInfeasible
  | dualInfeasible
  /-- Any other verdict, in the method's words. -/
  | other (verdict : String)
  deriving DecidableEq, Repr

/-- The end of a native run, with the point it leaves if it leaves one. -/
structure Finish where
  status : Status
  point : Option (List Float)
  iterations : Nat
  deriving DecidableEq, Repr

/-- The rows of a problem in the form a technique wants. -/
structure Form (R K : Type) where
  mat : Matrix Float
  rhs : R
  cones : K

structure Technique where
  kind : Kind
  /-- Right-hand sides of the rows. -/
  Rhs : Type
  /-- What else belongs to the rows and cannot be changed in a live workspace. -/
  Cones : Type
  Settings : Type
  /-- Why a setup can be refused. -/
  Refusal : Type
  /-- Why changes to a live workspace can be refused. -/
  UpdateRefusal : Type
  form : CheckedProblem → Form Rhs Cones
  /-- The first row with crossed bounds, where the method must not see such rows. -/
  crossedRow? : CheckedProblem → Option Nat
  statusText : Status → String
  refusalText : Refusal → String
  updateRefusalText : UpdateRefusal → String
  /-- Whether each native run is reported to the log. -/
  announces : Bool

structure Data (T : Technique) where
  /-- Upper triangle of the quadratic term. -/
  objective : Csc Float
  linear : List Float
  constraints : Csc Float
  rhs : T.Rhs
  cones : T.Cones

inductive Change (T : Technique) where
  | objective (m : Csc Float)
  | linear (v : List Float)
  | constraints (m : Csc Float)
  | rhs (r : T.Rhs)

/-- A change overwrites the part it names and nothing else. -/
def Data.apply {T : Technique} (d : Data T) : Change T → Data T
  | .objective m => { d with objective := m }
  | .linear v => { d with linear := v }
  | .constraints m => { d with constraints := m }
  | .rhs r => { d with rhs := r }

/-- The changes that a warm solve makes. The cones are not among them. -/
def Data.changes {T : Technique} (d : Data T) : List (Change T) :=
  [.objective d.objective, .linear d.linear, .constraints d.constraints, .rhs d.rhs]

/-- The native method. It may keep a memory of its own between runs. -/
structure Backend (T : Technique) where
  Memory : Type
  setup : Data T → T.Settings → Except T.Refusal Memory
  /-- Takes changes to the data of a live workspace. -/
  update : Data T → T.Settings → Memory → List (Change T) → Except T.UpdateRefusal Memory
  run : Data T → T.Settings → Memory → Finish × Memory

inductive Call (T : Technique) where
  | setup (data : Data T) (settings : T.Settings)
  | change (c : Change T)
  | run

structure Live (T : Technique) (B : Backend T) where
  data : Data T
  settings : T.Settings
  memory : B.Memory

structure State (T : Technique) (B : Backend T) where
  config : WorkspaceConfig T.Settings
  record : Record := {}
  workspace : Option (Live T B) := none
  /-- The objective last handed over. -/
  objective : Csc Float := .empty
  /-- The constraint matrix last handed over. -/
  constraints : Csc Float := .empty

variable {T : Technique} {B : Backend T}

def dataOf (T : Technique) (p : CheckedProblem) : Data T :=
  let form := T.form p
  { objective := .ofMatrix .upper p.problem.objMat
    linear := p.problem.objVec
    constraints := .ofMatrix .full form.mat
    rhs := form.rhs
    cones := form.cones }

namespace Live

def applyAll (w : Live T B) (changes : List (Change T)) : Live T B :=
  { w with data := changes.foldl Data.apply w.data }

/-- After the changes of a warm solve all data are those of the new problem, but for the cones. -/
theorem data_applyAll_changes (w : Live T B) (d : Data T) :
    (w.applyAll d.changes).data = { d with cones := w.data.cones } := rfl

/-- Hands the changes to the native method, which refuses them or takes them all. -/
def update (w : Live T B) (changes : List (Change T)) : Except T.UpdateRefusal (Live T B) :=
  (B.update w.data w.settings w.memory changes).map fun memory => { w.applyAll changes with memory }

/-- Runs the native method. Using up the iterations is a success if the caller accepts it. -/
def run (w : Live T B) (acceptMaxIterations : Bool) (stale : List Float) :
    Traced (Call T) (Attempt × Live T B) := do
  Traced.call .run
  let (finish, memory) := B.run w.data w.settings w.memory
  if T.announces then
    Traced.log (.finished T.kind finish.iterations (T.statusText finish.status))
  let x := finish.point.getD stale
  let accepted :=
    finish.status = .solved ∨ (finish.status = .maxIterations ∧ acceptMaxIterations)
  let attempt :=
    if accepted then Attempt.solved x else .failed x (.native (T.statusText finish.status))
  return (attempt, { w with memory })

end Live

namespace State

def new (config : WorkspaceConfig T.Settings) : State T B := { config }

def setForce (s : State T B) (force : Bool) : State T B :=
  { s with config := { s.config with forceInitialize := force } }

/-- The start the next solve of the same shape would take. -/
def startState (s : State T B) : StartState :=
  if s.config.forceInitialize then .cold else s.record.warm.state

/-- Changes a live workspace and runs it. If the changes are refused there is no run, and what the
refusal leaves of the workspace does not matter: a cold solve comes next. -/
def warmRun (s : State T B) (d : Data T) (stale : List Float) (live : Live T B) :
    Traced (Call T) (Attempt × Live T B) := do
  d.changes.forM fun c => Traced.call (.change c)
  match live.update d.changes with
  | .error refusal =>
    return (.failed stale (.updateRefused (T.updateRefusalText refusal)), live)
  | .ok live => live.run s.config.acceptMaxIterations stale

/-- Makes an attempt with the live workspace, if there is one. -/
def hotSolve (s : State T B) (d : Data T) (stale : List Float) :
    Traced (Call T) (Option (Attempt × Option (Live T B))) := do
  match s.workspace with
  | none => return none
  | some live =>
    let (attempt, left) ← s.warmRun d stale live
    return some (attempt, some left)

/-- Sets a new workspace up and runs it. -/
def coldSolve (s : State T B) (d : Data T) (stale : List Float) :
    Traced (Call T) (Attempt × Option (Live T B)) := do
  Traced.call (.setup d s.config.settings)
  match B.setup d s.config.settings with
  | .error refusal => return (.failed stale (.setupRefused (T.refusalText refusal)), none)
  | .ok memory =>
    let (attempt, left) ← Live.run ⟨d, s.config.settings, memory⟩ s.config.acceptMaxIterations stale
    return (attempt, some left)

/-- A solve that never reaches the native method. It leaves no workspace behind. -/
def settle (s : State T B) (dims : Dims) (attempt : Attempt) : Traced (Call T) (State T B) := do
  let record ← s.record.finish T.kind dims [.cold] attempt
  return { s with record, workspace := none }

/-- The attempts of a solve, when the stored positions agree with those of the solve before or not. -/
def attempt (s : State T B) (dims : Dims) (d : Data T) (samePattern : Bool) :
    Traced (Call T) (List StartState × Attempt × Option (Live T B)) := do
  let stale := s.record.staleSolution dims.var
  let hot ← match s.record.warm.plan dims s.config.forceInitialize with
    | .cold => pure none
    | .warm =>
      if samePattern then s.hotSolve d stale
      else do
        Traced.log (.patternChanged T.kind)
        pure none
  hotThenCold T.kind s.workspace hot fun _ => s.coldSolve d stale

def solve (s : State T B) (p : CheckedProblem) : Traced (Call T) (State T B) :=
  if p.dims.var = 0 then s.settle p.dims (.withoutVariables p)
  else do
    let d := dataOf T p
    Traced.log (.sparseConversion T.kind d.objective.nnz d.constraints.nnz)
    let samePattern :=
      d.objective.samePattern s.objective && d.constraints.samePattern s.constraints
    let s := { s with objective := d.objective, constraints := d.constraints }
    match T.crossedRow? p with
    | some row =>
      s.settle p.dims (.failed (s.record.staleSolution p.dims.var) (.crossedBounds row))
    | none =>
      let (attempts, attempt, workspace) ← s.attempt p.dims d samePattern
      let record ← s.record.finish T.kind p.dims attempts attempt
      return { s with record, workspace }

end State

end QuadOpt.Workspace
