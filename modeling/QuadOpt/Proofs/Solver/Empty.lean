import QuadOpt.Proofs.Number.Comparison
import QuadOpt.Proofs.Problem.Mismatch
import QuadOpt.Proofs.Solver.Cold

/-!
# Problems without variables

Without variables the right-hand sides decide alone, and no adapter asks its method. Nothing is kept
of such a problem, so the next one with variables goes as on a new adapter.
-/

namespace QuadOpt

def FirstRow (P : Float → Prop) (rows : List Float) (i : Nat) : Prop :=
  ∃ h : i < rows.length, P rows[i] ∧ ∀ j (hj : j < i), ¬ P rows[j]

theorem firstRow_of_findIdx? {P : Float → Bool} {rows : List Float} {i : Nat}
    (h : rows.findIdx? P = some i) : FirstRow (fun x => P x = true) rows i :=
  List.findIdx?_eq_some_iff_getElem.1 h

/-- Why the empty point is infeasible: an equality row asks for something else than zero. Only where
none does, it is an inequality row. -/
inductive Unsatisfied (p : Problem) : Reason → Prop where
  | equality {row : Nat} (h : FirstRow (fun b => (b == 0) = false) p.eqVec row) :
    Unsatisfied p (.equalityRow row)
  | inequality {row : Nat} (hzero : ∀ b ∈ p.eqVec, (b == 0) = true)
    (h : FirstRow (· < 0) p.ineqVec row) : Unsatisfied p (.inequalityRow row)

namespace Attempt

theorem unsatisfied_of_failure {p : CheckedProblem} {reason : Reason}
    (h : (withoutVariables p).failure = some reason) : Unsatisfied p.problem reason := by
  unfold withoutVariables at h
  split at h
  · next row hrow =>
    obtain rfl := Option.some.inj h
    apply Unsatisfied.equality
    simpa [bne] using firstRow_of_findIdx? hrow
  · next hzero =>
    split at h
    · next row hrow =>
      obtain rfl := Option.some.inj h
      apply Unsatisfied.inequality
      · simpa [bne] using List.findIdx?_eq_none_iff.1 hzero
      · simpa using firstRow_of_findIdx? hrow
    · cases h

theorem isSome_failure_withoutVariables (p : CheckedProblem) :
    (withoutVariables p).failure.isSome = true ↔
      (∃ b ∈ p.problem.eqVec, (b == 0) = false) ∨ ∃ d ∈ p.problem.ineqVec, d < 0 := by
  have hany : (withoutVariables p).failure.isSome =
      (p.problem.eqVec.any (· != 0) || p.problem.ineqVec.any (· < 0)) := by
    rw [← List.findIdx?_isSome, ← List.findIdx?_isSome]
    unfold withoutVariables
    cases p.problem.eqVec.findIdx? (· != 0) with
    | some row => rfl
    | none => cases p.problem.ineqVec.findIdx? (· < 0) <;> rfl
  simp [hany, bne]

end Attempt

namespace Solver

variable {B : Backends}

theorem finding_of_withoutVariables (s : Solver B) {p : CheckedProblem} (hvar : p.dims.var = 0) :
    s.finding p = pure (.withoutVariables p) := by
  cases s with
  | quadProg s =>
    rw [finding, Factored.finding, if_pos hvar]
    rfl
  | osqp s =>
    rw [finding, Workspace.finding, if_pos hvar]
    rfl
  | clarabel s =>
    rw [finding, Workspace.finding, if_pos hvar]
    rfl
  | totsu s =>
    rw [finding, Conic.finding, if_pos hvar]
    rfl

/-- What every solve of a problem without variables comes to. -/
structure Settled (kind : Kind) (p : CheckedProblem) (t : Traced NativeCall (Solver B)) : Prop where
  solution : t.value.solution = []
  calls : t.calls = []
  attempts : t.value.lastAttempts = [.cold]
  failed_iff : t.value.failed = true ↔
    (∃ b ∈ p.problem.eqVec, (b == 0) = false) ∨ ∃ d ∈ p.problem.ineqVec, d < 0
  failed_of_isNaN : ∀ b ∈ p.problem.eqVec, b.isNaN = true → t.value.failed = true
  reported : t.value.failed = true →
    ∃ reason, Unsatisfied p.problem reason ∧ t.logs = [.solveFailed kind p.dims reason]

theorem settled_of_withoutVariables (s : Solver B) {p : CheckedProblem} (hvar : p.dims.var = 0) :
    Settled s.kind p (s.solveChecked p) := by
  have hcold : s.StartsCold p := .inl hvar
  have hfinding := s.finding_of_withoutVariables hvar
  have hevents := events_of_cold hcold
  have hfailed := failed_of_cold hcold
  rw [hfinding] at hevents hfailed
  have hiff : (s.solveChecked p).value.failed = true ↔
      (∃ b ∈ p.problem.eqVec, (b == 0) = false) ∨ ∃ d ∈ p.problem.ineqVec, d < 0 := by
    rw [hfailed]
    exact Attempt.isSome_failure_withoutVariables p
  constructor
  · exact solution_of_cold hcold (by rw [hfinding]; rfl)
  · simp [Traced.calls, hevents, List.filterMap_map]
  · rw [lastAttempts, record_of_cold hcold, Record.after]
  · exact hiff
  · intro b hb hnan
    exact hiff.2 (.inl ⟨b, hb, Binary64.beq_eq_false_of_isNaN hnan 0⟩)
  · intro h
    rw [hfailed, Option.isSome_iff_exists] at h
    obtain ⟨reason, hreason⟩ := h
    refine ⟨reason, Attempt.unsatisfied_of_failure hreason, ?_⟩
    rw [Traced.logs, hevents, hreason]
    rfl

/-! ## What comes next -/

theorem startsCold_of_latest? {s : Solver B} {xs : List Step} {e : Machine.Entry (Solver B)}
    (hlatest : (machine B).latest? s xs = some e) {p : CheckedProblem}
    (hdims : e.problem.dims ≠ p.dims) : ((machine B).run s xs).value.StartsCold p := by
  right
  rw [warm_run_of_latest? hlatest]
  simp [WarmStart.plan, hdims]

/-- All adapters settle a problem without variables alike, whatever they solved before, and as if it
had been the first one they go on. -/
theorem withoutVariables_alike (B : Backends) (config : Config) (kind : Kind) (s₀ : Solver B)
    (hfresh : Catalogue.fresh? B config kind = some s₀) (xs : List Step) :
    let past := ((machine B).run s₀ xs).value
    (∀ p : CheckedProblem, p.dims.var = 0 →
      ∃ t, past.solve p.problem = .ok t ∧ Settled kind p t) ∧
      ∀ e, (machine B).latest? s₀ xs = some e → e.problem.dims.var = 0 →
        ∀ p : CheckedProblem, 0 < p.dims.var →
          ∀ config' new, Catalogue.fresh? B config' kind = some new →
            new.settings = past.settings → SolvesAsNew past new p := by
  intro past
  have hkind : past.kind = kind := by rw [kind_run, kind_of_fresh? hfresh]
  constructor
  · intro p hvar
    refine ⟨past.solveChecked p, ?_, ?_⟩
    · rw [solve, p.check_problem, Except.map]
    · have hsettled := past.settled_of_withoutVariables hvar
      rwa [hkind] at hsettled
  · intro e hlatest hempty p hvar config' new hnew hsettings
    apply solvesAsNew_of_cold
    · refine startsCold_of_latest? hlatest fun hdims => ?_
      rw [hdims] at hempty
      omega
    · exact record_of_fresh? hnew
    · rw [kind_of_fresh? hnew, hkind]
    · exact hsettings

/-- The second of two equality rows asks for no number at all. -/
def unsatisfied : CheckedProblem :=
  ⟨{ Problem.new ⟨0, 2, 1⟩ with eqVec := [0, 0 / 0], ineqVec := [-1] },
    fun f => by cases f <;> rfl⟩

theorem withoutVariables_alike_unsatisfied :
    let s₀ : Solver .interval := .quadProg (.new Config.defaultQuadProg)
    let steps : List Step := [.solve (capped 2).problem, .solve unsatisfied.problem]
    let past := ((machine .interval).run s₀ steps).value
    past.startState = .cold ∧
      (∃ t, past.solve unsatisfied.problem = .ok t ∧ Settled .quadProg unsatisfied t ∧
        t.logs = [.solveFailed .quadProg ⟨0, 2, 1⟩ (.equalityRow 1)]) ∧
      SolvesAsNew past s₀ (capped 2) ∧ (s₀.solveChecked (capped 2)).value.solution = [1] := by
  intro s₀ steps past
  obtain ⟨hsettled, hnext⟩ :=
    withoutVariables_alike .interval Config.default .quadProg s₀ rfl steps
  obtain ⟨t, hsolve, ht⟩ := hsettled unsatisfied rfl
  have hlogs : t.logs = [.solveFailed .quadProg ⟨0, 2, 1⟩ (.equalityRow 1)] := by
    obtain rfl := Except.ok.inj hsolve
    decide +kernel
  exact ⟨by decide +kernel, ⟨t, hsolve, ht, hlogs⟩,
    hnext _ rfl rfl (capped 2) (by decide) Config.default s₀ rfl (by decide +kernel),
    by decide +kernel⟩

end Solver

end QuadOpt
