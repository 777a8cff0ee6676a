import QuadOpt.Proofs.Outcome
import QuadOpt.Proofs.Workspace.Retained

/-!
# What a solve with a workspace leaves

The record of a solve follows from its path, and a success leaves a workspace together with the two
matrices of the problem. A warm attempt on the next problem needs these, and nothing else that the
record does not say.
-/

namespace QuadOpt.Workspace

variable {T : Technique} {B : Backend T}

/-! ## Attempts -/

namespace Live

variable (w : Live T B) (acceptMaxIterations : Bool) (stale : List Float)

theorem attempt_run :
    (w.run acceptMaxIterations stale).value.1 =
      let finish := (B.run w.data w.settings w.memory).1
      let x := finish.point.getD stale
      if finish.status = .solved ∨ (finish.status = .maxIterations ∧ acceptMaxIterations) then
        .solved x
      else .failed x (.native (T.statusText finish.status)) := by
  unfold run
  cases T.announces <;> rfl

theorem x_run :
    (w.run acceptMaxIterations stale).value.1.x =
      (B.run w.data w.settings w.memory).1.point.getD stale := by
  rw [attempt_run]
  dsimp only
  split <;> rfl

end Live

namespace State

variable (s : State T B) (p : CheckedProblem)

theorem value_coldSolve (d : Data T) (stale : List Float) :
    (s.coldSolve d stale).value =
      match B.setup d s.config.settings with
      | .error refusal => (.failed stale (.setupRefused (T.refusalText refusal)), none)
      | .ok memory =>
        let ran := Live.run ⟨d, s.config.settings, memory⟩ s.config.acceptMaxIterations stale
        (ran.value.1, some ran.value.2) := by
  unfold coldSolve
  cases B.setup d s.config.settings <;> simp

theorem workspace_coldSolve_ne_none {d : Data T} {stale : List Float}
    (hok : (s.coldSolve d stale).value.1.succeeded = true) :
    (s.coldSolve d stale).value.2 ≠ none := by
  rw [value_coldSolve] at hok ⊢
  cases hsetup : B.setup d s.config.settings with
  | error refusal =>
    rw [hsetup] at hok
    cases hok
  | ok memory => simp

theorem startState_of_triesWarm (h : s.triesWarm p) : s.startState = .warm := by
  obtain ⟨hforce, hstate⟩ := WarmStart.eq_of_plan_eq_warm h.1
  simp [startState, hforce, hstate]

/-- There is a workspace, and the matrices last handed over are those of `q`. -/
structure Ready (q : CheckedProblem) : Prop where
  workspace : s.workspace ≠ none
  objective : s.objective = (dataOf T q).objective
  constraints : s.constraints = (dataOf T q).constraints

end State

/-- Both matrices handed over have the same shape and the same stored positions. -/
structure SamePositions (a b : Data T) : Prop where
  objective : a.objective.SamePositions b.objective
  constraints : a.constraints.SamePositions b.constraints

theorem samePositions_iff (q p : CheckedProblem) :
    SamePositions (dataOf T q) (dataOf T p) ↔
      (dataOf T p).objective.samePattern (dataOf T q).objective = true ∧
        (dataOf T p).constraints.samePattern (dataOf T q).constraints = true := by
  constructor
  · rintro ⟨hobjective, hconstraints⟩
    exact ⟨Csc.samePattern_symm ((Csc.samePattern_ofMatrix_iff _ _ _ _).2 hobjective),
      Csc.samePattern_symm ((Csc.samePattern_ofMatrix_iff _ _ _ _).2 hconstraints)⟩
  · rintro ⟨hobjective, hconstraints⟩
    exact ⟨(Csc.samePattern_ofMatrix_iff _ _ _ _).1 (Csc.samePattern_symm hobjective),
      (Csc.samePattern_ofMatrix_iff _ _ _ _).1 (Csc.samePattern_symm hconstraints)⟩

theorem State.Ready.triesWarm_iff {s : State T B} {q : CheckedProblem} (h : s.Ready q)
    (p : CheckedProblem) :
    s.triesWarm p ↔ s.record.warm.plan p.dims s.config.forceInitialize = .warm ∧
      SamePositions (dataOf T q) (dataOf T p) := by
  rw [samePositions_iff, triesWarm, fits, Bool.and_eq_true, h.objective, h.constraints]
  simp [h.workspace]

/-! ## Points of the right length -/

/-- A point of the native method has an entry for each entry of the linear term. -/
def Backend.Sized (B : Backend T) : Prop :=
  ∀ d settings memory x, (B.run d settings memory).1.point = some x → x.length = d.linear.length

theorem Live.length_run (hB : B.Sized) (w : Live T B) (acceptMaxIterations : Bool)
    {stale : List Float} (hstale : stale.length = w.data.linear.length) :
    (w.run acceptMaxIterations stale).value.1.x.length = w.data.linear.length := by
  rw [x_run]
  cases hpoint : (B.run w.data w.settings w.memory).1.point with
  | none => exact hstale
  | some x => exact hB _ _ _ x hpoint

namespace State

variable (s : State T B) (p : CheckedProblem)

theorem length_coldSolve (hB : B.Sized) :
    (s.coldSolve (dataOf T p) (s.stale p)).value.1.x.length = p.dims.var := by
  rw [value_coldSolve]
  cases B.setup (dataOf T p) s.config.settings with
  | error refusal => exact s.record.length_staleSolution _
  | ok memory =>
    refine (Live.length_run hB _ _ ?_).trans p.objVec_length
    exact (s.record.length_staleSolution _).trans p.objVec_length.symm

theorem length_warmRun (hB : B.Sized) (live : Live T B) :
    (s.warmRun (dataOf T p) (s.stale p) live).value.1.x.length = p.dims.var := by
  rw [value_warmRun]
  cases hupdate : live.update (dataOf T p).changes with
  | error refusal => exact s.record.length_staleSolution _
  | ok left =>
    have hlinear : left.data.linear.length = p.dims.var := by
      rw [Live.data_update hupdate]
      exact p.objVec_length
    refine (Live.length_run hB _ _ ?_).trans hlinear
    exact (s.record.length_staleSolution _).trans hlinear.symm

end State

/-! ## What a solve leaves -/

namespace Solved

variable {s t : State T B} {p : CheckedProblem} {cs : List (Call T)}

theorem head?_attempts (h : Solved s p cs t) :
    t.record.attempts.head? = some .warm ↔
      p.dims.var ≠ 0 ∧ T.crossedRow? p = none ∧ s.triesWarm p := by
  cases h with
  | withoutVariables hvar => simp [State.after, Record.after, hvar]
  | crossed hvar hrow => simp [State.after, Record.after, hrow]
  | cold hvar hrow hcold => simp [State.after, Record.after, hcold]
  | warm hvar hrow hwarm => simp [State.after, Record.after, hvar, hrow, hwarm]
  | retried hvar hrow hwarm => simp [State.after, Record.after, hvar, hrow, hwarm]

/-- What holds of each attempt that a solve can end with holds of the one that counts. -/
theorem outcome {Q : Attempt → Prop} (h : Solved s p cs t)
    (hnone : p.dims.var = 0 → Q (.withoutVariables p))
    (hcrossed : ∀ row, Q (.failed (s.stale p) (.crossedBounds row)))
    (hcold : T.crossedRow? p = none → Q (s.coldSolve (dataOf T p) (s.stale p)).value.1)
    (hwarm : ∀ live, (s.warmRun (dataOf T p) (s.stale p) live).value.1.failure = none →
      Q (s.warmRun (dataOf T p) (s.stale p) live).value.1) :
    s.record.Outcome s.startState p.dims Q t.record := by
  cases h with
  | withoutVariables hvar => exact .cold (hnone hvar)
  | crossed => exact .cold (hcrossed _)
  | cold hvar hrow => exact .cold (hcold hrow)
  | warm hvar hrow htries hlive hok =>
    exact .warm (hwarm _ hok) (s.startState_of_triesWarm p htries) hok
  | retried hvar hrow htries => exact .retried (hcold hrow) (s.startState_of_triesWarm p htries)

theorem crossedRow?_eq_none (h : Solved s p cs t) (hvar : p.dims.var ≠ 0)
    (hok : t.record.failed = false) : T.crossedRow? p = none := by
  cases h with
  | withoutVariables hvar' => exact absurd hvar' hvar
  | crossed => cases hok
  | cold hvar hrow => exact hrow
  | warm hvar hrow => exact hrow
  | retried hvar hrow => exact hrow

/-- A success leaves the workspace and the matrices of the problem solved. -/
theorem ready (h : Solved s p cs t) (hvar : p.dims.var ≠ 0)
    (hok : t.record.failed = false) : t.Ready p := by
  have hcold (attempts : List StartState)
      (hok : (s.coldSolve (dataOf T p) (s.stale p)).value.1.succeeded = true) :
      ((s.store (dataOf T p)).after p attempts (s.coldSolve (dataOf T p) (s.stale p)).value.1
        (s.coldSolve (dataOf T p) (s.stale p)).value.2).Ready p :=
    ⟨s.workspace_coldSolve_ne_none hok, rfl, rfl⟩
  cases h with
  | withoutVariables hvar' => exact absurd hvar' hvar
  | crossed => cases hok
  | cold => exact hcold _ (by simpa [State.after, Record.after] using hok)
  | warm => exact ⟨Option.some_ne_none _, rfl, rfl⟩
  | retried => exact hcold _ (by simpa [State.after, Record.after] using hok)

end Solved

end QuadOpt.Workspace
