import QuadOpt.Proofs.Solver.Start

/-!
# What the record says

At any time the record is that of the latest solve, whichever adapter made it and however it went. The
warm-start state, the outcome, the starts and the point agree with each other and with the problem.
-/

namespace QuadOpt.Solver

variable {B : Backends}

/-- What `now` says of a solve of `p` that began in `before`. -/
structure Booked (before : Solver B) (p : CheckedProblem) (now : Solver B) : Prop where
  attempts : now.lastAttempts ∈ [[.cold], [.warm], [.warm, .cold]]
  lastStart : now.lastStart = now.lastAttempts.getLast?
  cold_of_failed : now.failed = true → now.lastStart = some .cold ∧ now.startState = .cold
  succeeded_of_warm : now.lastAttempts = [.warm] → now.failed = false
  announced : now.lastAttempts.head? = some .warm → before.startState = .warm
  cachedDims : now.record.warm.cachedDims = some p.dims
  length : now.solution.length = p.dims.var

theorem startState_of_state_eq_cold {s : Solver B} (h : s.record.warm.state = .cold) :
    s.startState = .cold := by
  rw [startState_eq, h, ite_self]

theorem booked_of_outcome {before now : Solver B} {p : CheckedProblem}
    (h : before.record.Outcome before.startState p.dims (fun a => a.x.length = p.dims.var)
      now.record) : Booked before p now where
  attempts := h.mem_attempts
  lastStart := h.lastStart_eq
  cold_of_failed := by
    intro hfailed
    refine ⟨h.lastStart_of_failed hfailed, startState_of_state_eq_cold ?_⟩
    have hrecord : now.record.failed = true := hfailed
    rw [h.warm_eq, hrecord]
    rfl
  succeeded_of_warm := h.failed_of_attempts
  announced := h.start_of_head?
  cachedDims := by rw [h.warm_eq]
  length := by
    obtain ⟨a, ha, hx, -⟩ := h.exists_attempt
    exact (congrArg List.length hx).trans ha

/-- After every run, the record is the first one if nothing was solved, and is in order after the
latest solve otherwise. -/
theorem bookkeeping (B : Backends) (hB : B.Sized) (config : Config) (kind : Kind) (s₀ : Solver B)
    (hfresh : Catalogue.fresh? B config kind = some s₀) (xs : List Step) :
    let now := ((machine B).run s₀ xs).value
    match (machine B).latest? s₀ xs with
    | none => now.lastStart = none ∧ now.lastAttempts = [] ∧ now.failed = false ∧
        now.startState = .cold
    | some e => now.record = e.after.record ∧ Booked e.before e.problem now := by
  intro now
  cases hlatest : (machine B).latest? s₀ xs with
  | none =>
    have hrecord : now.record = {} := record_run_of_latest?_eq_none hfresh hlatest
    have hstart : now.startState = .cold := startState_of_state_eq_cold (by rw [hrecord]; rfl)
    simp [lastStart, lastAttempts, failed, hrecord, hstart]
  | some e =>
    obtain ⟨-, hafter⟩ := entry_of_mem_history (List.mem_of_getLast? hlatest)
    have hrecord : now.record = e.after.record := record_run_of_latest? hlatest
    refine ⟨hrecord, booked_of_outcome ?_⟩
    rw [hrecord, hafter]
    exact e.before.outcome_length e.problem hB

/-- A start, a refused problem, and one that no point fits. -/
def tightening : List Step :=
  [.solve (capped 2).problem, .solve { (capped 2).problem with objVec := [] },
    .solve (capped (-1)).problem, .force true]

theorem bookkeeping_capped :
    let s₀ : Solver .interval := .clarabel (.new Config.defaultClarabel)
    let now := ((machine .interval).run s₀ tightening).value
    Catalogue.fresh? .interval Config.default .clarabel = some s₀ ∧ now.failed = true ∧
      now.lastAttempts = [.warm, .cold] ∧ now.startState = .cold ∧
      ∃ e, (machine .interval).latest? s₀ tightening = some e ∧ e.before.startState = .warm ∧
        now.solution.length = e.problem.dims.var := by
  intro s₀ now
  have hfailed : now.failed = true := by decide +kernel
  have hattempts : now.lastAttempts = [.warm, .cold] := by decide +kernel
  have hbooked :=
    bookkeeping .interval Backends.sized_interval Config.default .clarabel s₀ rfl tightening
  cases hlatest : (machine .interval).latest? s₀ tightening with
  | none =>
    rw [hlatest] at hbooked
    rw [hbooked.2.2.1] at hfailed
    cases hfailed
  | some e =>
    rw [hlatest] at hbooked
    obtain ⟨-, hbooked⟩ := hbooked
    have hannounced := hbooked.announced (by rw [hattempts, List.head?_cons])
    exact ⟨rfl, hfailed, hattempts, (hbooked.cold_of_failed hfailed).2, e, rfl, hannounced,
      hbooked.length⟩

end QuadOpt.Solver
