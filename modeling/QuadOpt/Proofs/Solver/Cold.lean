import QuadOpt.Proofs.Finding
import QuadOpt.Proofs.Solver.Start

/-!
# Cold starts forget the past

A solve that starts cold does what a new adapter with the same settings does: the same native calls
with the same data, the same log, the same verdict. All that can come from before is the point of a
failed solve for which the method has none.
-/

namespace QuadOpt

/-! ## Settings -/

namespace Config

theorem osqpSection_injective {a b : WorkspaceConfig SplittingSettings}
    (h : osqpSection a = osqpSection b) : a = b := by
  obtain ⟨force, accept, ⟨maxIter, epsAbs, epsRel, polish, verbose⟩⟩ := a
  simp [osqpSection, switches, UInt32.toNat_inj] at h
  simp [h]

theorem clarabelSection_injective {a b : WorkspaceConfig InteriorPointSettings}
    (h : clarabelSection a = clarabelSection b) : a = b := by
  obtain ⟨force, accept, ⟨maxIter, tolGapAbs, tolGapRel, verbose⟩⟩ := a
  simp [clarabelSection, switches, UInt32.toNat_inj] at h
  simp [h]

theorem totsuSection_injective {a b : ConicSettings} (h : totsuSection a = totsuSection b) :
    a = b := by
  obtain ⟨maxIter, epsAcc⟩ := a
  simp [totsuSection, UInt64.toNat_inj] at h
  simp [h]

end Config

namespace Solver

variable {B : Backends}

/-! ## What a cold solve finds -/

def finding : Solver B → CheckedProblem → Traced NativeCall Finding
  | quadProg _, p => (Factored.finding B.factored p).mapCalls .factored
  | osqp s, p => (Workspace.finding B.splitting s.config p).mapCalls .splitting
  | clarabel s, p => (Workspace.finding B.interiorPoint s.config p).mapCalls .interiorPoint
  | totsu s, p => (Conic.finding B.conic s.config p).mapCalls .conic

theorem finding_eq_of_settings {s t : Solver B} (hkind : s.kind = t.kind)
    (h : s.settings = t.settings) : s.finding = t.finding := by
  cases s <;> cases t <;> try cases hkind
  case quadProg.quadProg => rfl
  case osqp.osqp s t =>
    have hconfig : s.config = t.config := Config.osqpSection_injective h
    funext p
    rw [finding, finding, hconfig]
  case clarabel.clarabel s t =>
    have hconfig : s.config = t.config := Config.clarabelSection_injective h
    funext p
    rw [finding, finding, hconfig]
  case totsu.totsu s t =>
    have hconfig : s.config = t.config := Config.totsuSection_injective h
    funext p
    rw [finding, finding, hconfig]

/-- There is nothing to start from, or no wish to. -/
def StartsCold (s : Solver B) (p : CheckedProblem) : Prop :=
  p.dims.var = 0 ∨ s.record.warm.plan p.dims s.forces = .cold

/-- What an adapter's solve leaves in its record, the solver's solve leaves in its own. -/
theorem record_map_mapCalls {C σ : Type} {wrap : σ → Solver B} {f : C → NativeCall} {x : Traced C σ}
    {r : Record} {kind : Kind} {dims : Dims} {found : Traced C Finding}
    (h : (fun t => (wrap t).record) <$> x = r.finishCold kind dims found) :
    record <$> (wrap <$> x.mapCalls f) = r.finishCold kind dims (found.mapCalls f) := by
  rw [← Record.mapCalls_finishCold, ← h, Traced.mapCalls_map, Functor.map_map]

theorem record_solveChecked_of_cold {s : Solver B} {p : CheckedProblem} (h : s.StartsCold p) :
    record <$> s.solveChecked p = s.record.finishCold s.kind p.dims (s.finding p) := by
  cases s with
  | quadProg s => exact record_map_mapCalls (s.record_solve_of_cold (B := B.factored) p h)
  | osqp s => exact record_map_mapCalls (s.record_solve_of_cold p h)
  | clarabel s => exact record_map_mapCalls (s.record_solve_of_cold p h)
  | totsu s => exact record_map_mapCalls (s.record_solve (B := B.conic) p)

section

variable {s : Solver B} {p : CheckedProblem} (h : s.StartsCold p)

include h

theorem record_of_cold :
    (s.solveChecked p).value.record = s.record.after p.dims [.cold]
      ((s.finding p).value.attempt (s.record.staleSolution p.dims.var)) := by
  have hsolve := congrArg Traced.value (record_solveChecked_of_cold h)
  rwa [Traced.value_map, Record.value_finishCold] at hsolve

theorem events_of_cold :
    (s.solveChecked p).events = (s.finding p).events ++
      (s.finding p).value.failure.toList.map fun reason =>
        .log (.solveFailed s.kind p.dims reason) := by
  have hsolve := congrArg Traced.events (record_solveChecked_of_cold h)
  rwa [Traced.events_map, Record.events_finishCold] at hsolve

theorem failed_of_cold :
    (s.solveChecked p).value.failed = (s.finding p).value.failure.isSome := by
  have hsolve := congrArg (·.value.failed) (record_solveChecked_of_cold h)
  rwa [Traced.value_map, Record.failed_finishCold] at hsolve

end

/-! ## The same as a new adapter -/

/-- A solve of `p` starts cold in `past`, and goes as it does in `new`. The events hold the native
calls with their arguments, and the line that reports why a solve failed. -/
structure SolvesAsNew (past new : Solver B) (p : CheckedProblem) : Prop where
  attempts : (past.solveChecked p).value.lastAttempts = [.cold]
  events : (past.solveChecked p).events = (new.solveChecked p).events
  failed : (past.solveChecked p).value.failed = (new.solveChecked p).value.failed
  reported : (past.solveChecked p).value.failed = true →
    ∃ reason, .log (.solveFailed past.kind p.dims reason) ∈ (past.solveChecked p).events
  solution : ∀ x, (past.finding p).value.point = some x →
    (past.solveChecked p).value.solution = x ∧ (new.solveChecked p).value.solution = x

theorem startsCold_of_record {s : Solver B} (h : s.record = {}) (p : CheckedProblem) :
    s.StartsCold p := by
  right
  simp [h, WarmStart.plan, WarmStart.new]

theorem solution_of_cold {s : Solver B} {p : CheckedProblem} (h : s.StartsCold p) {x : List Float}
    (hx : (s.finding p).value.point = some x) : (s.solveChecked p).value.solution = x := by
  rw [solution, record_of_cold h, Record.after, Finding.attempt, hx, Option.getD_some]

theorem solvesAsNew_of_cold {past new : Solver B} {p : CheckedProblem} (hcold : past.StartsCold p)
    (hnew : new.record = {}) (hkind : new.kind = past.kind)
    (hsettings : new.settings = past.settings) : SolvesAsNew past new p := by
  have hfinding : new.finding = past.finding := finding_eq_of_settings hkind hsettings
  have hfirst : new.StartsCold p := startsCold_of_record hnew p
  constructor
  · rw [lastAttempts, record_of_cold hcold, Record.after]
  · rw [events_of_cold hcold, events_of_cold hfirst, hfinding, hkind]
  · rw [failed_of_cold hcold, failed_of_cold hfirst, hfinding]
  · intro hfailed
    rw [failed_of_cold hcold, Option.isSome_iff_exists] at hfailed
    obtain ⟨reason, hreason⟩ := hfailed
    refine ⟨reason, ?_⟩
    simp [events_of_cold hcold, hreason]
  · intro x hx
    refine ⟨solution_of_cold hcold hx, solution_of_cold hfirst ?_⟩
    rw [hfinding, hx]

theorem startsCold_of_forces {s : Solver B} (h : s.forces = true) (p : CheckedProblem) :
    s.StartsCold p := by
  right
  simp [h, WarmStart.plan]

/-- Where cold starts are forced, nothing that was solved before makes a difference. -/
theorem forced_start_memoryless (B : Backends) (config : Config) (kind : Kind) (s₀ : Solver B)
    (hfresh : Catalogue.fresh? B config kind = some s₀) (xs : List Step) (p : CheckedProblem)
    (hforces : ((machine B).run s₀ xs).value.forces = true) (config' : Config) (new : Solver B)
    (hnew : Catalogue.fresh? B config' kind = some new)
    (hsettings : new.settings = ((machine B).run s₀ xs).value.settings) :
    SolvesAsNew ((machine B).run s₀ xs).value new p := by
  apply solvesAsNew_of_cold
  · exact startsCold_of_forces hforces p
  · exact record_of_fresh? hnew
  · rw [kind_run, kind_of_fresh? hfresh, kind_of_fresh? hnew]
  · exact hsettings

/-- A failure shows the one thing that is left of the past. -/
theorem forced_start_memoryless_capped :
    let s₀ : Solver .interval := .osqp (.new hotOsqp.osqp)
    let steps : List Step := [.solve (capped 2).problem, .solve (capped 3).problem, .force true]
    let past := ((machine .interval).run s₀ steps).value
    let new : Solver .interval := .osqp (.new Config.default.osqp)
    past.lastAttempts = [.warm] ∧ past.forces = true ∧ new.settings = past.settings ∧
      SolvesAsNew past new (capped 2) ∧ SolvesAsNew past new (capped (-1)) ∧
      (past.solveChecked (capped (-1))).value.solution = [1] ∧
      (new.solveChecked (capped (-1))).value.solution = [0] := by
  intro s₀ steps past new
  have hforces : past.forces = true := by decide +kernel
  have hsettings : new.settings = past.settings := by decide +kernel
  have hlaw (p : CheckedProblem) : SolvesAsNew past new p :=
    forced_start_memoryless .interval hotOsqp .osqp s₀ rfl steps p hforces Config.default new rfl
      hsettings
  exact ⟨by decide +kernel, hforces, hsettings, hlaw _, hlaw _, by decide +kernel,
    by decide +kernel⟩

end Solver

end QuadOpt
