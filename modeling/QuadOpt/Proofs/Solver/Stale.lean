import QuadOpt.Proofs.Solver.Start

/-!
# What a failed solve returns

A failure with no point of its own hands back the record's point, or zeros if that has another length.
Where no failure has a point of its own, the record's point is that of a success until the number of
variables changes, and zeros from then on until the next success.
-/

namespace QuadOpt

theorem Record.Outcome.solution_of_failed {r t : Record} {start : StartState} {dims : Dims}
    {y : List Float} (h : r.Outcome start dims (fun a => a.failure ≠ none → a.x = y) t)
    (hfailed : t.failed = true) : t.solution = y := by
  obtain ⟨a, hstale, hx, hiff⟩ := h.exists_attempt
  rw [hx]
  exact hstale (hiff.1 hfailed)

theorem Attempt.x_withoutVariables_eq_stale (r : Record) {p : CheckedProblem}
    (hvar : p.dims.var = 0) : (Attempt.withoutVariables p).x = r.staleSolution p.dims.var := by
  rw [x_withoutVariables, hvar, Record.staleSolution_zero]

/-! ## Failures without an iterate -/

namespace Workspace

variable {T : Technique} {B : Backend T}

/-- The method leaves no point when it finds the problem infeasible or unbounded. -/
def Backend.OmitsPoints (B : Backend T) : Prop :=
  ∀ d settings memory, (B.run d settings memory).1.status ∈ [.primalInfeasible, .dualInfeasible] →
    (B.run d settings memory).1.point = none

/-- A cold solve of the problem has no iterate to show. -/
inductive LacksIterate (s : State T B) (p : CheckedProblem) : Prop where
  | withoutVariables (hvar : p.dims.var = 0)
  | crossed {row : Nat} (hrow : T.crossedRow? p = some row)
  | refused {refusal : T.Refusal}
    (hsetup : B.setup (dataOf T p) s.config.settings = .error refusal)
  | infeasible {memory : B.Memory} (hsetup : B.setup (dataOf T p) s.config.settings = .ok memory)
    (hstatus : (B.run (dataOf T p) s.config.settings memory).1.status ∈
      [.primalInfeasible, .dualInfeasible])
  | pointless {memory : B.Memory} (hsetup : B.setup (dataOf T p) s.config.settings = .ok memory)
    (hpoint : (B.run (dataOf T p) s.config.settings memory).1.point = none)

theorem x_coldSolve_of_point_eq_none {s : State T B} {p : CheckedProblem} {memory : B.Memory}
    (hsetup : B.setup (dataOf T p) s.config.settings = .ok memory)
    (hpoint : (B.run (dataOf T p) s.config.settings memory).1.point = none) :
    (s.coldSolve (dataOf T p) (s.stale p)).value.1.x = s.stale p := by
  rw [s.value_coldSolve, hsetup]
  dsimp only
  rw [Live.x_run, hpoint, Option.getD_none]

theorem x_coldSolve_of_lacksIterate (hB : B.OmitsPoints) {s : State T B} {p : CheckedProblem}
    (h : LacksIterate s p) (hvar : p.dims.var ≠ 0) (hrow : T.crossedRow? p = none) :
    (s.coldSolve (dataOf T p) (s.stale p)).value.1.x = s.stale p := by
  cases h with
  | withoutVariables hvar' => exact absurd hvar' hvar
  | crossed hrow' =>
    rw [hrow] at hrow'
    cases hrow'
  | refused hsetup => rw [s.value_coldSolve, hsetup]; rfl
  | infeasible hsetup hstatus => exact x_coldSolve_of_point_eq_none hsetup (hB _ _ _ hstatus)
  | pointless hsetup hpoint => exact x_coldSolve_of_point_eq_none hsetup hpoint

/-- A warm attempt that failed before makes no difference. -/
theorem solution_of_lacksIterate (hB : B.OmitsPoints) {s : State T B} {p : CheckedProblem}
    (h : LacksIterate s p) (hfailed : (s.solve p).value.record.failed = true) :
    (s.solve p).value.record.solution = s.stale p := by
  by_cases hvar : p.dims.var = 0
  · rw [(s.solve_of_withoutVariables p hvar).2]
    exact Attempt.x_withoutVariables_eq_stale _ hvar
  refine ((s.solve_solved p).outcome (fun hvar' => absurd hvar' hvar) (fun row _ => rfl) ?_ ?_)
    |>.solution_of_failed hfailed
  · exact fun hrow _ => x_coldSolve_of_lacksIterate hB h hvar hrow
  · exact fun live hok hfailure => absurd hok hfailure

end Workspace

theorem Backends.omitsPoints_interval : Backends.interval.splitting.OmitsPoints := by
  intro d settings memory h
  dsimp only [interval] at h ⊢
  split at h
  · simp at h
  · rfl

namespace Solver

variable {B : Backends}

/-- A failure of this problem has no iterate, where the method has one for other failures. -/
def LacksIterate : Solver B → CheckedProblem → Prop
  | osqp s, p => Workspace.LacksIterate s p
  | _, _ => False

theorem solution_of_lacksIterate (hB : B.splitting.OmitsPoints) {s : Solver B} {p : CheckedProblem}
    (h : s.LacksIterate p) (hfailed : (s.solveChecked p).value.failed = true) :
    (s.solveChecked p).value.solution = s.record.staleSolution p.dims.var := by
  cases s with
  | osqp s => exact Workspace.solution_of_lacksIterate hB h hfailed
  | _ => cases h

/-! ## Methods that have no iterate for any failure -/

theorem outcome_stale (hfactored : B.factored.Sized) (hconic : B.conic.Sized) (s : Solver B)
    (p : CheckedProblem) (hkind : s.kind = .quadProg ∨ s.kind = .totsu) :
    s.record.Outcome s.startState p.dims
      (fun a => a.x.length = p.dims.var ∧
        (a.failure ≠ none → a.x = s.record.staleSolution p.dims.var))
      (s.solveChecked p).value.record := by
  have hstale : (s.record.staleSolution p.dims.var).length = p.dims.var :=
    s.record.length_staleSolution _
  have hnone (hvar : p.dims.var = 0) :
      (Attempt.withoutVariables p).x = s.record.staleSolution p.dims.var :=
    Attempt.x_withoutVariables_eq_stale _ hvar
  cases s with
  | quadProg s =>
    refine (s.solve_solved p).outcome (fun hvar => ?_) ⟨hstale, fun _ => rfl⟩ fun inverse => ?_
    · exact ⟨(congrArg List.length (hnone hvar)).trans hstale, fun _ => hnone hvar⟩
    · exact ⟨s.length_attemptWith p inverse hfactored, s.x_attemptWith_of_failure p inverse⟩
  | totsu s =>
    refine s.outcome p (fun hvar => ?_) ⟨s.length_coldSolve p hconic, s.x_coldSolve_of_failure p⟩
    exact ⟨(congrArg List.length (hnone hvar)).trans hstale, fun _ => hnone hvar⟩
  | _ => simp [kind] at hkind

/-! ## The success that stands -/

/-- `e` is the latest success, and all solves since then had as many variables. -/
def Standing (es : List (Machine.Entry (Solver B))) (e : Machine.Entry (Solver B)) : Prop :=
  ∃ earlier since, es = earlier ++ e :: since ∧ e.after.failed = false ∧
    ∀ f ∈ since, f.after.failed = true ∧ f.problem.dims.var = e.problem.dims.var

theorem not_standing_nil (e : Machine.Entry (Solver B)) : ¬ Standing [] e := by
  rintro ⟨earlier, since, hsplit, -⟩
  simp at hsplit

theorem standing_concat_iff {es : List (Machine.Entry (Solver B))}
    {e f : Machine.Entry (Solver B)} :
    Standing (es ++ [f]) e ↔ (f = e ∧ e.after.failed = false) ∨
      (Standing es e ∧ f.after.failed = true ∧ f.problem.dims.var = e.problem.dims.var) := by
  constructor
  · rintro ⟨earlier, since, hsplit, hok, hsince⟩
    -- Either `f` itself is the success, or it is the last of the failures since.
    rcases List.eq_nil_or_concat since with rfl | ⟨rest, g, rfl⟩
    · obtain ⟨-, hlast⟩ := List.append_inj' hsplit rfl
      exact .inl ⟨List.singleton_inj.1 hlast, hok⟩
    · rw [List.concat_eq_append] at hsplit hsince
      rw [← List.cons_append, ← List.append_assoc] at hsplit
      obtain ⟨hes, hlast⟩ := List.append_inj' hsplit rfl
      obtain rfl := List.singleton_inj.1 hlast
      refine .inr ⟨⟨earlier, rest, hes, hok, fun d hd => ?_⟩, hsince f (by simp)⟩
      exact hsince d (List.mem_append_left _ hd)
  · rintro (⟨rfl, hok⟩ | ⟨⟨earlier, since, rfl, hok, hsince⟩, hfailed, hvar⟩)
    · exact ⟨es, [], rfl, hok, by simp⟩
    · refine ⟨earlier, since ++ [f], by simp, hok, fun d hd => ?_⟩
      rcases List.mem_append.1 hd with hd | hd
      · exact hsince d hd
      · rw [List.mem_singleton.1 hd]
        exact ⟨hfailed, hvar⟩

/-- The record's point is that of the success that stands, and zeros if none does. -/
structure Shows (es : List (Machine.Entry (Solver B))) (x : List Float) : Prop where
  standing : ∀ e, Standing es e → x = e.after.solution ∧ x.length = e.problem.dims.var
  zeros : (∀ e, ¬ Standing es e) → x = List.replicate x.length 0

theorem shows_nil : Shows ([] : List (Machine.Entry (Solver B))) [] where
  standing e h := absurd h (not_standing_nil e)
  zeros _ := rfl

theorem Shows.staleSolution_of_standing {es : List (Machine.Entry (Solver B))} {r : Record}
    (h : Shows es r.solution) {e : Machine.Entry (Solver B)} (he : Standing es e) {n : Nat}
    (hvar : e.problem.dims.var = n) : r.staleSolution n = e.after.solution := by
  obtain ⟨hsolution, hlength⟩ := h.standing e he
  rw [Record.staleSolution, if_pos (hlength.trans hvar), hsolution]

theorem Shows.staleSolution_of_forall {es : List (Machine.Entry (Solver B))} {r : Record}
    (h : Shows es r.solution) {n : Nat} (hnone : ∀ e, Standing es e → e.problem.dims.var ≠ n) :
    r.staleSolution n = List.replicate n 0 := by
  unfold Record.staleSolution
  split
  · next hlength =>
    -- The point has the right length, so it cannot be that of a success that stands.
    have hzeros : r.solution = List.replicate r.solution.length 0 :=
      h.zeros fun e he => hnone e he ((h.standing e he).2.symm.trans hlength)
    rw [hzeros, hlength]
  · rfl

theorem Shows.concat {es : List (Machine.Entry (Solver B))} {r : Record} (h : Shows es r.solution)
    {f : Machine.Entry (Solver B)} (hlength : f.after.solution.length = f.problem.dims.var)
    (hstale : f.after.failed = true →
      f.after.solution = r.staleSolution f.problem.dims.var) :
    Shows (es ++ [f]) f.after.solution := by
  cases hfailed : f.after.failed with
  | false =>
    -- Only the new success stands.
    constructor
    · intro e he
      rcases standing_concat_iff.1 he with ⟨rfl, -⟩ | ⟨-, hfailed', -⟩
      · exact ⟨rfl, hlength⟩
      · rw [hfailed] at hfailed'
        cases hfailed'
    · exact fun hnone => absurd (standing_concat_iff.2 (.inl ⟨rfl, hfailed⟩)) (hnone f)
  | true =>
    -- What stood still stands if it has as many variables; the stale point tells both cases apart.
    constructor
    · intro e he
      rcases standing_concat_iff.1 he with ⟨rfl, hok⟩ | ⟨he, -, hvar⟩
      · rw [hfailed] at hok
        cases hok
      · have hsolution := (hstale hfailed).trans (h.staleSolution_of_standing he hvar.symm)
        exact ⟨hsolution, hlength.trans hvar⟩
    · intro hnone
      rw [hlength, hstale hfailed]
      refine h.staleSolution_of_forall fun e he hvar => hnone e ?_
      exact standing_concat_iff.2 (.inr ⟨he, hfailed, hvar.symm⟩)

theorem shows_run (hfactored : B.factored.Sized) (hconic : B.conic.Sized) {s₀ : Solver B}
    (hrecord : s₀.record = {}) (hkind : s₀.kind = .quadProg ∨ s₀.kind = .totsu)
    (xs : List Step) :
    Shows ((machine B).history s₀ xs) ((machine B).run s₀ xs).value.solution := by
  refine ((machine B).history_invariant
    (I := fun es s => (s.kind = .quadProg ∨ s.kind = .totsu) ∧ Shows es s.solution) ?_ ?_ ?_ xs).2
  · rintro es s p ⟨hkind, hshows⟩
    refine ⟨by rwa [← s.kind_solveChecked p] at hkind, ?_⟩
    obtain ⟨a, ⟨hlength, hstale⟩, hx, hfailed⟩ :=
      (outcome_stale hfactored hconic s p hkind).exists_attempt
    refine hshows.concat (f := ⟨p, s, (s.solveChecked p).value⟩) ?_ ?_
    · exact (congrArg List.length hx).trans hlength
    · exact fun h => hx.trans (hstale (hfailed.1 h))
  · rintro es s on ⟨hkind, hshows⟩
    refine ⟨by rwa [← s.kind_setForce on] at hkind, ?_⟩
    have hrecord : ((machine B).setForce s on).record = s.record := s.record_setForce on
    rwa [solution, hrecord]
  · refine ⟨hkind, ?_⟩
    rw [solution, hrecord]
    exact shows_nil

/-! ## Failed solves in a run -/

/-- The point of a failed solve. Two methods return that of the success that stands, if that had as
many variables, and zeros otherwise. The splitting method, where it has no iterate, returns the latest
point if that has the right length, and zeros otherwise. -/
theorem failed_solution (B : Backends) (hfactored : B.factored.Sized) (hconic : B.conic.Sized)
    (hsplitting : B.splitting.OmitsPoints) (config : Config) (kind : Kind) (s₀ : Solver B)
    (hfresh : Catalogue.fresh? B config kind = some s₀) (xs : List Step) (p : CheckedProblem)
    (hfailed : (((machine B).run s₀ xs).value.solveChecked p).value.failed = true) :
    let past := ((machine B).run s₀ xs).value
    let solves := (machine B).history s₀ xs
    let x := (past.solveChecked p).value.solution
    let zeros := List.replicate p.dims.var 0
    (kind = .quadProg ∨ kind = .totsu →
      (∀ e, Standing solves e → e.problem.dims.var = p.dims.var → x = e.after.solution) ∧
        ((∀ e, Standing solves e → e.problem.dims.var ≠ p.dims.var) → x = zeros)) ∧
      (past.LacksIterate p →
        x = match (machine B).latest? s₀ xs with
          | some e => if e.after.solution.length = p.dims.var then e.after.solution else zeros
          | none => zeros) := by
  intro past solves x zeros
  constructor
  · intro hkind
    rw [← kind_of_fresh? hfresh] at hkind
    have hshows : Shows solves past.record.solution :=
      shows_run hfactored hconic (record_of_fresh? hfresh) hkind xs
    have hx : x = past.record.staleSolution p.dims.var := by
      rw [← kind_run s₀ xs] at hkind
      obtain ⟨a, ⟨-, hstale⟩, hx, hiff⟩ :=
        (outcome_stale hfactored hconic past p hkind).exists_attempt
      exact hx.trans (hstale (hiff.1 hfailed))
    constructor
    · intro e he hvar
      exact hx.trans (hshows.staleSolution_of_standing he hvar)
    · exact fun hnone => hx.trans (hshows.staleSolution_of_forall hnone)
  · intro hlacks
    have hx : x = past.record.staleSolution p.dims.var :=
      solution_of_lacksIterate hsplitting hlacks hfailed
    rw [hx]
    cases hlatest : (machine B).latest? s₀ xs with
    | none =>
      have hrecord : past.record = {} := record_run_of_latest?_eq_none hfresh hlatest
      have hshows : Shows ([] : List (Machine.Entry (Solver B))) past.record.solution :=
        hrecord ▸ shows_nil
      exact hshows.staleSolution_of_forall fun e he => absurd he (not_standing_nil e)
    | some e =>
      have hrecord : past.record = e.after.record := record_run_of_latest? hlatest
      rw [hrecord]
      rfl

theorem failed_solution_capped :
    let steps : List Step := [.solve (capped 2).problem, .solve (capped (-1)).problem]
    let tight := capped (-2)
    let factored : Solver .interval := .quadProg (.new Config.defaultQuadProg)
    let split : Solver .interval := .osqp (.new hotOsqp.osqp)
    let last (s : Solver .interval) (xs : List Step) :=
      (((machine .interval).run s xs).value.solveChecked tight).value
    (∃ e, Standing ((machine .interval).history factored steps) e ∧
      (last factored steps).solution = e.after.solution ∧ e.after.solution = [1]) ∧
    (last split (steps.take 1)).lastAttempts = [.warm, .cold] ∧
    ∃ e, (machine .interval).latest? split (steps.take 1) = some e ∧
      (last split (steps.take 1)).solution = e.after.solution ∧ e.after.solution = [1] := by
  intro steps tight factored split last
  have hlaw := fun kind s₀ hfresh xs hfailed =>
    failed_solution .interval Backends.sized_interval.factored Backends.sized_interval.conic
      Backends.omitsPoints_interval hotOsqp kind s₀ hfresh xs tight hfailed
  constructor
  · obtain ⟨hstanding, -⟩ := hlaw .quadProg factored rfl steps (by decide +kernel)
    let e : Machine.Entry (Solver .interval) :=
      ⟨capped 2, factored, (factored.solveChecked (capped 2)).value⟩
    let f : Machine.Entry (Solver .interval) :=
      ⟨capped (-1), e.after, (e.after.solveChecked (capped (-1))).value⟩
    have he : Standing ((machine .interval).history factored steps) e := by
      refine ⟨[], [f], rfl, by decide +kernel, fun d hd => ?_⟩
      rw [List.mem_singleton.1 hd]
      exact ⟨by decide +kernel, rfl⟩
    exact ⟨e, he, (hstanding (.inl rfl)).1 e he rfl, by decide +kernel⟩
  · obtain ⟨-, hlacks⟩ := hlaw .osqp split rfl (steps.take 1) (by decide +kernel)
    have hpoint : ((machine .interval).run split (steps.take 1)).value.LacksIterate tight :=
      @Workspace.LacksIterate.infeasible _ _ _ _ () rfl (by decide +kernel)
    let e : Machine.Entry (Solver .interval) :=
      ⟨capped 2, split, (split.solveChecked (capped 2)).value⟩
    have hlatest : (machine .interval).latest? split (steps.take 1) = some e := rfl
    have hlength : e.after.solution.length = tight.dims.var := by decide +kernel
    have hx := hlacks hpoint
    rw [hlatest] at hx
    exact ⟨by decide +kernel, e, hlatest, hx.trans (if_pos hlength), by decide +kernel⟩

end Solver

end QuadOpt
