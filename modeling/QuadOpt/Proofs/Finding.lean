import QuadOpt.Proofs.Outcome
import QuadOpt.Proofs.Workspace.Path

/-!
# What a cold solve finds

A cold solve reads the configuration and the problem. The record comes in at one place only: where
the method leaves no point, the record's stale one stands in. `Finding` is a solve without that one
part, and the adapters' solves are it, with the record put back.
-/

namespace QuadOpt

/-- The native method's point, if it leaves one, and the reason if it failed. -/
structure Finding where
  point : Option (List Float)
  failure : Option Reason
  deriving DecidableEq, Repr

namespace Finding

/-- Where there are no variables no method is needed: the only point is the empty one. -/
def withoutVariables (p : CheckedProblem) : Finding :=
  ⟨some [], (Attempt.withoutVariables p).failure⟩

def attempt (f : Finding) (stale : List Float) : Attempt := ⟨f.point.getD stale, f.failure⟩

theorem attempt_withoutVariables (p : CheckedProblem) (stale : List Float) :
    (withoutVariables p).attempt stale = .withoutVariables p := by
  rw [attempt, withoutVariables, Option.getD_some, ← Attempt.x_withoutVariables p]

end Finding

/-! ## Records of cold solves -/

namespace Record

variable {C D : Type} (r : Record) (kind : Kind) (dims : Dims) (found : Traced C Finding)

def finishCold : Traced C Record :=
  found >>= fun f => r.finish kind dims [.cold] (f.attempt (r.staleSolution dims.var))

theorem value_finishCold :
    (r.finishCold kind dims found).value =
      r.after dims [.cold] (found.value.attempt (r.staleSolution dims.var)) := by
  rw [finishCold, Traced.value_bind, value_finish]

/-- Nothing of the record shows in the events. -/
theorem events_finishCold :
    (r.finishCold kind dims found).events = found.events ++
      found.value.failure.toList.map fun reason => .log (.solveFailed kind dims reason) := by
  rw [finishCold, Traced.events_bind, events_finish, Finding.attempt]

theorem mapCalls_finishCold (f : C → D) :
    (r.finishCold kind dims found).mapCalls f = r.finishCold kind dims (found.mapCalls f) := by
  simp only [finishCold, Traced.mapCalls_bind, mapCalls_finish]

theorem failed_finishCold :
    (r.finishCold kind dims found).value.failed = found.value.failure.isSome := by
  rw [value_finishCold, failed_after]
  rfl

end Record

/-! ## The adapters that keep a workspace -/

namespace Workspace

variable {T : Technique}

/-- What the native method finds once it is set up anew. -/
def foundBy (B : Backend T) (config : WorkspaceConfig T.Settings) (d : Data T) :
    Traced (Call T) Finding := do
  Traced.call (.setup d config.settings)
  match B.setup d config.settings with
  | .error refusal => return ⟨none, some (.setupRefused (T.refusalText refusal))⟩
  | .ok memory =>
    Traced.call .run
    let finish := (B.run d config.settings memory).1
    if T.announces then
      Traced.log (.finished T.kind finish.iterations (T.statusText finish.status))
    if finish.status = .solved ∨ (finish.status = .maxIterations ∧ config.acceptMaxIterations) then
      return ⟨finish.point, none⟩
    else return ⟨finish.point, some (.native (T.statusText finish.status))⟩

def finding (B : Backend T) (config : WorkspaceConfig T.Settings) (p : CheckedProblem) :
    Traced (Call T) Finding :=
  if p.dims.var = 0 then pure (.withoutVariables p)
  else do
    let d := dataOf T p
    Traced.log (.sparseConversion T.kind d.objective.nnz d.constraints.nnz)
    match T.crossedRow? p with
    | some row => return ⟨none, some (.crossedBounds row)⟩
    | none => foundBy B config d

variable {B : Backend T}

theorem State.attempt_coldSolve (s : State T B) (d : Data T) (stale : List Float) :
    (·.1) <$> s.coldSolve d stale = (·.attempt stale) <$> foundBy B s.config d := by
  unfold coldSolve foundBy
  cases B.setup d s.config.settings with
  | error refusal => rfl
  | ok memory =>
    simp only [Live.run]
    -- Whether the run is announced, and whether its status is accepted.
    split <;> split <;> rfl

theorem State.record_solve_of_cold (s : State T B) (p : CheckedProblem)
    (hcold : p.dims.var = 0 ∨ s.record.warm.plan p.dims s.config.forceInitialize = .cold) :
    State.record <$> s.solve p = s.record.finishCold T.kind p.dims (finding B s.config p) := by
  unfold solve finding Record.finishCold
  by_cases hvar : p.dims.var = 0
  · simp only [if_pos hvar, settle, map_bind, map_pure, bind_pure, pure_bind,
      Finding.attempt_withoutVariables]
  have hplan := hcold.resolve_left hvar
  simp only [if_neg hvar, map_bind, bind_assoc]
  cases T.crossedRow? p with
  | some row =>
    simp only [settle, map_bind, map_pure, bind_pure, pure_bind]
    rfl
  | none =>
    have hmade := (s.store (dataOf T p)).attempt_coldSolve (dataOf T p)
      (s.record.staleSolution p.dims.var)
    have hfinish := congrArg (· >>= s.record.finish T.kind p.dims [.cold]) hmade
    simp only [bind_map_left] at hfinish
    simp only [attempt, hplan, hotThenCold_none, pure_bind, map_bind, map_pure, bind_assoc,
      bind_pure]
    exact congrArg (Traced.log _ >>= fun _ => ·) hfinish

end Workspace

/-! ## The adapter that keeps a factor -/

namespace Factored

def finding (B : Backend) (p : CheckedProblem) : Traced Call Finding :=
  if p.dims.var = 0 then pure (.withoutVariables p)
  else do
    Traced.call (.factor p.problem.objMat)
    match B.factor p.problem.objMat with
    | none => return ⟨none, some .notPositiveDefinite⟩
    | some inverse =>
      let entries := inverse.columnMajor
      Traced.call (.solve entries p.problem.objVec p.flatRows)
      match B.solve entries p.problem.objVec p.flatRows with
      | .ok x => return ⟨some x, none⟩
      | .error status => return ⟨none, some (.native status)⟩

variable {B : Backend}

theorem State.record_solve_of_cold (s : State) (p : CheckedProblem)
    (hcold : p.dims.var = 0 ∨ s.record.warm.plan p.dims s.config.forceInitialize = .cold) :
    State.record <$> s.solve B p = s.record.finishCold .quadProg p.dims (finding B p) := by
  unfold solve finding Record.finishCold
  by_cases hvar : p.dims.var = 0
  · simp only [if_pos hvar, map_bind, map_pure, bind_pure, pure_bind,
      Finding.attempt_withoutVariables]
  have hplan := hcold.resolve_left hvar
  simp only [if_neg hvar, hplan, hotThenCold_none, coldSolve, pure_bind, map_bind, map_pure,
    bind_assoc, bind_pure]
  cases B.factor p.problem.objMat with
  | none =>
    simp only [pure_bind]
    rfl
  | some inverse =>
    simp only [callBackend, pure_bind, bind_assoc]
    cases B.solve inverse.columnMajor p.problem.objVec p.flatRows with
    | ok x => rfl
    | error status => rfl

end Factored

/-! ## The conic adapter -/

namespace Conic

def finding (B : Backend) (config : ConicSettings) (p : CheckedProblem) : Traced Call Finding :=
  if p.dims.var = 0 then pure (.withoutVariables p)
  else do
    Traced.call (.solve (dataOf p) config)
    match B.solve (dataOf p) config with
    | .ok x => return ⟨some (x.take p.dims.var), none⟩
    | .error failure => return ⟨none, some (.native failure)⟩

variable {B : Backend}

theorem State.record_solve (s : State) (p : CheckedProblem) :
    State.record <$> s.solve B p = s.record.finishCold .totsu p.dims (finding B s.config p) := by
  unfold solve finding Record.finishCold
  by_cases hvar : p.dims.var = 0
  · simp only [if_pos hvar, map_bind, map_pure, bind_pure, pure_bind,
      Finding.attempt_withoutVariables]
  simp only [if_neg hvar, coldSolve, map_bind, map_pure, bind_assoc, bind_pure]
  cases B.solve (dataOf p) s.config with
  | ok x => rfl
  | error failure => rfl

end Conic

end QuadOpt
