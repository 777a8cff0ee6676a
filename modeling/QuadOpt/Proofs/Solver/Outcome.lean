import QuadOpt.Catalogue
import QuadOpt.Proofs.Factored.Path
import QuadOpt.Proofs.Form.Crossed
import QuadOpt.Proofs.History
import QuadOpt.Proofs.Workspace.Outcome

/-!
# What a solve of any adapter leaves

The four adapters write their records alike. Two of them, and the conic one, hand back the stale point
whenever they fail.
-/

namespace QuadOpt

/-! ## The conic adapter -/

namespace Conic

variable {B : Backend}

/-- A point of the native method has an entry for each variable, and perhaps more. -/
def Backend.Sized (B : Backend) : Prop :=
  ∀ d settings x, B.solve d settings = .ok x → d.linear.length ≤ x.length

namespace State

variable (s : State) (p : CheckedProblem)

theorem value_coldSolve :
    (s.coldSolve B p).value =
      match B.solve (dataOf p) s.config with
      | .ok x => .solved (x.take p.dims.var)
      | .error failure => .failed (s.record.staleSolution p.dims.var) (.native failure) := by
  unfold coldSolve
  cases hsolve : B.solve (dataOf p) s.config <;> simp [hsolve]

theorem value_solve :
    (s.solve B p).value =
      { s with
        record := s.record.after p.dims [.cold]
          (if p.dims.var = 0 then .withoutVariables p else (s.coldSolve B p).value) } := by
  unfold solve
  split <;> simp only [Traced.value_bind, Traced.value_pure, Record.value_finish]

theorem length_coldSolve (hB : B.Sized) : (s.coldSolve B p).value.x.length = p.dims.var := by
  rw [value_coldSolve]
  cases hsolve : B.solve (dataOf p) s.config with
  | error failure => exact s.record.length_staleSolution _
  | ok x =>
    have hle := hB _ _ x hsolve
    rw [show (dataOf p).linear.length = p.dims.var from p.objVec_length] at hle
    exact List.length_take_of_le hle

theorem x_coldSolve_of_failure (h : (s.coldSolve B p).value.failure ≠ none) :
    (s.coldSolve B p).value.x = s.record.staleSolution p.dims.var := by
  rw [value_coldSolve] at h ⊢
  cases hsolve : B.solve (dataOf p) s.config with
  | error failure => rfl
  | ok x =>
    rw [hsolve] at h
    exact absurd rfl h

theorem outcome {Q : Attempt → Prop} (hnone : p.dims.var = 0 → Q (.withoutVariables p))
    (hcold : Q (s.coldSolve B p).value) :
    s.record.Outcome s.startState p.dims Q (s.solve B p).value.record := by
  rw [value_solve]
  refine .cold ?_
  split
  · next hvar => exact hnone hvar
  · exact hcold

end State

end Conic

/-! ## All four adapters -/

/-- The native methods leave points of the right length. -/
structure Backends.Sized (B : Backends) : Prop where
  factored : B.factored.Sized
  splitting : B.splitting.Sized
  interiorPoint : B.interiorPoint.Sized
  conic : B.conic.Sized

namespace Solver

variable {B : Backends} (s : Solver B) (p : CheckedProblem)

/-- Whether every solve starts cold, on request or because the method has no other start. -/
def forces : Solver B → Bool
  | quadProg s => s.config.forceInitialize
  | osqp s => s.config.forceInitialize
  | clarabel s => s.config.forceInitialize
  | totsu _ => true

theorem startState_eq : s.startState = if s.forces then .cold else s.record.warm.state := by
  cases s <;> rfl

@[simp] theorem record_setForce (on : Bool) : (s.setForce on).record = s.record := by
  cases s <;> rfl

@[simp] theorem kind_setForce (on : Bool) : (s.setForce on).kind = s.kind := by
  cases s <;> rfl

@[simp] theorem kind_solveChecked : (s.solveChecked p).value.kind = s.kind := by
  cases s <;> rfl

theorem outcome : s.record.Outcome s.startState p.dims (fun _ => True)
    (s.solveChecked p).value.record := by
  cases s with
  | quadProg s => exact (s.solve_solved p).outcome (fun _ => trivial) trivial fun _ => trivial
  | osqp s =>
    exact (s.solve_solved p).outcome (fun _ => trivial) (fun _ => trivial) (fun _ => trivial)
      fun _ _ => trivial
  | clarabel s =>
    exact (s.solve_solved p).outcome (fun _ => trivial) (fun _ => trivial) (fun _ => trivial)
      fun _ _ => trivial
  | totsu s => exact s.outcome p (fun _ => trivial) trivial

theorem outcome_length (hB : B.Sized) :
    s.record.Outcome s.startState p.dims (fun a => a.x.length = p.dims.var)
      (s.solveChecked p).value.record := by
  have hnone (hvar : p.dims.var = 0) :
      (Attempt.withoutVariables p).x.length = p.dims.var := by
    rw [Attempt.x_withoutVariables, hvar, List.length_nil]
  cases s with
  | quadProg s =>
    exact (s.solve_solved p).outcome hnone (s.record.length_staleSolution _) fun inverse =>
      s.length_attemptWith p inverse hB.factored
  | osqp s =>
    exact (s.solve_solved p).outcome hnone (fun _ => s.record.length_staleSolution _)
      (fun _ => s.length_coldSolve p hB.splitting) fun live _ => s.length_warmRun p hB.splitting live
  | clarabel s =>
    exact (s.solve_solved p).outcome hnone (fun _ => s.record.length_staleSolution _)
      (fun _ => s.length_coldSolve p hB.interiorPoint)
      fun live _ => s.length_warmRun p hB.interiorPoint live
  | totsu s => exact s.outcome p hnone (s.length_coldSolve p hB.conic)

end Solver

/-! ## An instance -/

namespace Interval

/-- The interval that rows `a * x ≤ b` leave, where each `a` is one or minus one. -/
def ofRows (rows : List (Float × Float)) : Float × Float :=
  rows.foldl (fun (lo, hi) (a, b) => if a < 0 then (max lo (-b), hi) else (lo, min hi b))
    (negativeInfinity, 1 / 0)

/-- The minimum of `x² / 2 + c * x` over the interval, for each entry `c` of the linear term. -/
def minimum? (rows : List (Float × Float)) (linear : List Float) : Option (List Float) :=
  let (lo, hi) := ofRows rows
  if hi < lo then none else some (linear.map fun c => max lo (min hi (-c)))

theorem length_of_minimum? {rows : List (Float × Float)} {linear x : List Float}
    (h : minimum? rows linear = some x) : x.length = linear.length := by
  unfold minimum? at h
  dsimp only at h
  split at h
  · cases h
  · obtain rfl := Option.some.inj h
    exact List.length_map _

end Interval

/-- Exact methods for one variable with a unit objective and unit rows. -/
def Backends.interval : Backends where
  factored :=
    { toRoutines := Factored.identityRoutines
      solve := fun _ linear rows =>
        match Interval.minimum? (rows.entries.zip rows.rhs) linear with
        | some x => .ok x
        | none => .error Factored.infeasibleText }
  splitting :=
    { Memory := Unit
      setup := fun _ _ => .ok ()
      update := fun _ _ _ _ => .ok ()
      run := fun d _ _ =>
        let coeffs := d.constraints.nzval
        let rows := coeffs.zip d.rhs.upper ++ (coeffs.map (-·)).zip (d.rhs.lower.map (-·))
        match Interval.minimum? rows d.linear with
        | some x => (⟨.solved, some x, 1⟩, ())
        | none => (⟨.primalInfeasible, none, 1⟩, ()) }
  interiorPoint :=
    { Memory := Unit
      setup := fun _ _ => .ok ()
      update := fun _ _ _ _ => .ok ()
      run := fun d _ _ =>
        match Interval.minimum? (d.constraints.nzval.zip d.rhs) d.linear with
        | some x => (⟨.solved, some x, 1⟩, ())
        | none => (⟨.primalInfeasible, some d.linear, 1⟩, ()) }
  conic :=
    { solve := fun d _ =>
        match Interval.minimum? (d.ineqMat.toLists.flatten.zip d.ineqRhs) d.linear with
        | some x => .ok x
        | none => .error Conic.infeasibleText }

theorem Backends.sized_interval : Backends.interval.Sized where
  factored := by
    intro factor linear rows x h
    dsimp only [interval] at h
    split at h
    · next hsome =>
      obtain rfl := Except.ok.inj h
      exact Interval.length_of_minimum? hsome
    · cases h
  splitting := by
    intro d settings memory x h
    dsimp only [interval] at h
    split at h
    · next hsome =>
      obtain rfl := Option.some.inj h
      exact Interval.length_of_minimum? hsome
    · cases h
  interiorPoint := by
    intro d settings memory x h
    dsimp only [interval] at h
    split at h
    · next hsome =>
      obtain rfl := Option.some.inj h
      exact Interval.length_of_minimum? hsome
    · exact congrArg List.length (Option.some.inj h).symm
  conic := by
    intro d settings x h
    dsimp only [interval] at h
    split at h
    · next hsome =>
      obtain rfl := Except.ok.inj h
      exact (Interval.length_of_minimum? hsome).ge
    · cases h

/-- The minimum of `x² / 2 - x` for `x` between zero and `h`. -/
def capped (h : Float) : CheckedProblem :=
  ⟨{ Problem.new ⟨1, 0, 1⟩ with
      objMat := .identity 1, objVec := [-1], ineqMat := .identity 1, ineqVec := [h], xMin := [0] },
    fun f => by cases f <;> rfl⟩

end QuadOpt
