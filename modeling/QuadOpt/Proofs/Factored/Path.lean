import QuadOpt.Proofs.Factored.Cache
import QuadOpt.Proofs.Outcome

/-!
# The paths of a solve with a kept factor

A solve settles a problem without variables, starts cold, starts warm with the kept factor, or starts
warm, fails and starts cold. `Solved` lists these paths with the state that each leaves.
-/

namespace QuadOpt.Factored

variable {B : Backend}

namespace State

variable (s : State) (p : CheckedProblem)

/-! ## Attempts -/

def stale : List Float := s.record.staleSolution p.dims.var

def attemptWith (B : Backend) (inverse : Matrix Float) : Attempt :=
  (s.callBackend B inverse p p.flatRows).value

/-- The cold attempt, and the factor that it keeps. -/
def coldAttempt (B : Backend) : Attempt × Option Cached := (s.coldSolve B p p.flatRows).value

theorem attemptWith_eq (inverse : Matrix Float) :
    s.attemptWith p B inverse =
      match B.solve inverse.columnMajor p.problem.objVec p.flatRows with
      | .ok x => .solved x
      | .error status => .failed (s.stale p) (.native status) := by
  unfold attemptWith callBackend
  cases hsolve : B.solve inverse.columnMajor p.problem.objVec p.flatRows <;>
    simp [hsolve, stale]

theorem coldAttempt_eq :
    s.coldAttempt p B =
      match B.factor p.problem.objMat with
      | none => (.failed (s.stale p) .notPositiveDefinite, none)
      | some inverse => (s.attemptWith p B inverse, some ⟨p.problem.objMat, inverse⟩) := by
  unfold coldAttempt coldSolve
  cases B.factor p.problem.objMat <;> rfl

/-- Whether a solve of a problem with variables makes a warm attempt. -/
def triesWarm : Prop :=
  s.record.warm.plan p.dims s.config.forceInitialize = .warm ∧
    ∃ cached, s.factor = some cached ∧ cached.objMat.EqualEntries p.problem.objMat

/-! ## All paths -/

def after (attempts : List StartState) (attempt : Attempt) (factor : Option Cached) : State :=
  { s with record := s.record.after p.dims attempts attempt, factor }

end State

/-- The state that a solve leaves. -/
inductive Solved (B : Backend) (s : State) (p : CheckedProblem) : State → Prop where
  | withoutVariables (hvar : p.dims.var = 0) :
    Solved B s p (s.after p [.cold] (.withoutVariables p) s.factor)
  | cold (hvar : p.dims.var ≠ 0) (hcold : ¬ s.triesWarm p) :
    Solved B s p (s.after p [.cold] (s.coldAttempt p B).1 (s.coldAttempt p B).2)
  | warm {cached : Cached} (hvar : p.dims.var ≠ 0) (hwarm : s.triesWarm p)
    (hkept : s.factor = some cached) (hsame : cached.objMat.EqualEntries p.problem.objMat)
    (hok : (s.attemptWith p B cached.inverse).failure = none) :
    Solved B s p (s.after p [.warm] (s.attemptWith p B cached.inverse) s.factor)
  | retried (hvar : p.dims.var ≠ 0) (hwarm : s.triesWarm p) :
    Solved B s p (s.after p [.warm, .cold] (s.coldAttempt p B).1 (s.coldAttempt p B).2)

namespace State

variable (s : State) (p : CheckedProblem)

theorem warmAttempt_of_not_triesWarm (h : ¬ s.triesWarm p) : (s.warmAttempt p B).value = none := by
  unfold warmAttempt
  cases hplan : s.record.warm.plan p.dims s.config.forceInitialize with
  | cold => rfl
  | warm =>
    unfold hotSolve
    cases hkept : s.factor with
    | none => rfl
    | some cached =>
      dsimp only
      split
      · next hsame => exact absurd ⟨hplan, cached, hkept, (Matrix.sameValues_iff _ _).1 hsame⟩ h
      · rfl

theorem warmAttempt_of_triesWarm (h : s.triesWarm p) :
    ∃ cached, s.factor = some cached ∧ cached.objMat.EqualEntries p.problem.objMat ∧
      (s.warmAttempt p B).value = some (s.attemptWith p B cached.inverse, s.factor) := by
  obtain ⟨hplan, cached, hkept, hsame⟩ := h
  refine ⟨cached, hkept, hsame, ?_⟩
  simp only [warmAttempt, hplan, hotSolve, hkept, (Matrix.sameValues_iff _ _).2 hsame, if_true]
  rfl

theorem solve_solved : Solved B s p (s.solve B p).value := by
  by_cases hvar : p.dims.var = 0
  · have hvalue : (s.solve B p).value = s.after p [.cold] (.withoutVariables p) s.factor := by
      simp only [solve, if_pos hvar, Traced.value_bind, Record.value_finish, Traced.value_pure]
      rfl
    rw [hvalue]
    exact .withoutVariables hvar
  rw [s.value_solve p hvar]
  by_cases hwarm : s.triesWarm p
  · obtain ⟨cached, hkept, hsame, hvalue⟩ := s.warmAttempt_of_triesWarm p hwarm (B := B)
    simp only [made, Traced.value_bind, hvalue]
    cases hfailure : (s.attemptWith p B cached.inverse).failure with
    | none =>
      rw [hotThenCold_succeeded _ _ _ hfailure]
      exact .warm hvar hwarm hkept hsame hfailure
    | some reason =>
      rw [hotThenCold_failed _ _ _ hfailure]
      exact .retried hvar hwarm
  · simp only [made, Traced.value_bind, s.warmAttempt_of_not_triesWarm p hwarm]
    exact .cold hvar hwarm

theorem startState_of_triesWarm (h : s.triesWarm p) : s.startState = .warm := by
  obtain ⟨hforce, hstate⟩ := WarmStart.eq_of_plan_eq_warm h.1
  simp [startState, hforce, hstate]

/-- The kept factor passes for that of the objective of `q`, whatever it is compared with. -/
def Ready (q : CheckedProblem) : Prop :=
  ∃ cached, s.factor = some cached ∧
    ∀ m, cached.objMat.EqualEntries m ↔ q.problem.objMat.EqualEntries m

theorem Ready.triesWarm_iff {s : State} {q : CheckedProblem} (h : s.Ready q) :
    s.triesWarm p ↔ s.record.warm.plan p.dims s.config.forceInitialize = .warm ∧
      q.problem.objMat.EqualEntries p.problem.objMat := by
  obtain ⟨cached, hkept, hsame⟩ := h
  simp [triesWarm, hkept, hsame]

end State

/-! ## Points of the right length -/

/-- A point of the native method has an entry for each entry of the linear term. -/
def Backend.Sized (B : Backend) : Prop :=
  ∀ factor linear rows x, B.solve factor linear rows = .ok x → x.length = linear.length

namespace State

variable (s : State) (p : CheckedProblem) (inverse : Matrix Float)

theorem length_attemptWith (hB : B.Sized) : (s.attemptWith p B inverse).x.length = p.dims.var := by
  rw [attemptWith_eq]
  cases hsolve : B.solve inverse.columnMajor p.problem.objVec p.flatRows with
  | error status => exact s.record.length_staleSolution _
  | ok x => exact (hB _ _ _ x hsolve).trans p.objVec_length

theorem x_attemptWith_of_failure (h : (s.attemptWith p B inverse).failure ≠ none) :
    (s.attemptWith p B inverse).x = s.stale p := by
  rw [attemptWith_eq] at h ⊢
  cases hsolve : B.solve inverse.columnMajor p.problem.objVec p.flatRows with
  | error status => rfl
  | ok x =>
    rw [hsolve] at h
    exact absurd rfl h

end State

/-! ## What a solve leaves -/

namespace Solved

variable {s t : State} {p : CheckedProblem}

theorem head?_attempts (h : Solved B s p t) :
    t.record.attempts.head? = some .warm ↔ p.dims.var ≠ 0 ∧ s.triesWarm p := by
  cases h with
  | withoutVariables hvar => simp [State.after, Record.after, hvar]
  | cold hvar hcold => simp [State.after, Record.after, hcold]
  | warm hvar hwarm => simp [State.after, Record.after, hvar, hwarm]
  | retried hvar hwarm => simp [State.after, Record.after, hvar, hwarm]

/-- What holds of each attempt that a solve can end with holds of the one that counts. -/
theorem outcome {Q : Attempt → Prop} (h : Solved B s p t)
    (hnone : p.dims.var = 0 → Q (.withoutVariables p))
    (hfactor : Q (.failed (s.stale p) .notPositiveDefinite))
    (hcall : ∀ inverse, Q (s.attemptWith p B inverse)) :
    s.record.Outcome s.startState p.dims Q t.record := by
  have hcold : Q (s.coldAttempt p B).1 := by
    rw [s.coldAttempt_eq]
    cases B.factor p.problem.objMat with
    | none => exact hfactor
    | some inverse => exact hcall inverse
  cases h with
  | withoutVariables hvar => exact .cold (hnone hvar)
  | cold => exact .cold hcold
  | warm hvar hwarm hkept hsame hok =>
    exact .warm (hcall _) (s.startState_of_triesWarm p hwarm) hok
  | retried hvar hwarm => exact .retried hcold (s.startState_of_triesWarm p hwarm)

/-- A success leaves a factor that passes for that of the problem solved. -/
theorem ready (h : Solved B s p t) (hvar : p.dims.var ≠ 0) (hok : t.record.failed = false) :
    t.Ready p := by
  have hcold (attempts : List StartState)
      (hok : (s.coldAttempt p B).1.succeeded = true) :
      (s.after p attempts (s.coldAttempt p B).1 (s.coldAttempt p B).2).Ready p := by
    rw [s.coldAttempt_eq] at hok ⊢
    cases hfactor : B.factor p.problem.objMat with
    | none =>
      rw [hfactor] at hok
      cases hok
    | some inverse => exact ⟨⟨p.problem.objMat, inverse⟩, rfl, fun m => Iff.rfl⟩
  cases h with
  | withoutVariables hvar' => exact absurd hvar' hvar
  | cold => exact hcold _ (by simpa [State.after, Record.after] using hok)
  | warm _ _ hkept hsame => exact ⟨_, hkept, fun m => hsame.congr⟩
  | retried => exact hcold _ (by simpa [State.after, Record.after] using hok)

end Solved

end QuadOpt.Factored
