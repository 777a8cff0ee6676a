import QuadOpt.Proofs.Solver.Outcome

/-!
# Which start a solve takes

A solve starts warm just if the latest one leaves what it needs, and nothing before that one matters.
What it needs is the success of that solve, the same dimensions, and matrices that the adapter can
reuse: an equal objective where its factor is kept, the same stored positions where a workspace is.
-/

namespace QuadOpt.Solver

variable {B : Backends}

/-- Both problems have matrices for which the adapter keeps one workspace or factor. -/
def Reusable (kind : Kind) (q p : CheckedProblem) : Prop :=
  match kind with
  | .quadProg => q.problem.objMat.EqualEntries p.problem.objMat
  | .osqp => Workspace.SamePositions (Workspace.dataOf splitting q) (Workspace.dataOf splitting p)
  | .clarabel =>
    Workspace.SamePositions (Workspace.dataOf interiorPoint q) (Workspace.dataOf interiorPoint p)
  | _ => False

/-- Some variable has a lower bound above its upper one. -/
def Crossed (p : CheckedProblem) : Prop :=
  ∃ i, ∃ (hmin : i < p.problem.xMin.length) (hmax : i < p.problem.xMax.length),
    p.problem.xMax[i] < p.problem.xMin[i]

/-- Whether the problem is one for the native method: it has variables, and no crossed bounds where
the adapter looks for them. -/
def Reaches (kind : Kind) (p : CheckedProblem) : Prop :=
  0 < p.dims.var ∧ (kind = .osqp → ¬ Crossed p)

theorem reaches_iff_of_ne {kind : Kind} (hkind : kind ≠ .osqp) (p : CheckedProblem) :
    Reaches kind p ↔ p.dims.var ≠ 0 := by
  simp [Reaches, hkind, Nat.pos_iff_ne_zero]

theorem reaches_osqp_iff (p : CheckedProblem) :
    Reaches .osqp p ↔ p.dims.var ≠ 0 ∧ ¬ Crossed p := by
  simp [Reaches, Nat.pos_iff_ne_zero]

theorem crossedRow?_splitting_eq_none_iff (p : CheckedProblem) :
    splitting.crossedRow? p = none ↔ ¬ Crossed p := by
  rw [show splitting.crossedRow? p = p.stackedRangesWithBounds.firstCrossedRow? from rfl,
    p.firstCrossedRow?_eq_none_iff]
  simp [Crossed, CheckedProblem.CrossedAt]

/-! ## After one solve -/

/-- What a warm start on a problem like `q` finds in the adapter. -/
def Ready (q : CheckedProblem) : Solver B → Prop
  | quadProg s => s.Ready q
  | osqp s => s.Ready q
  | clarabel s => s.Ready q
  | totsu _ => True

theorem Ready.setForce {s : Solver B} {q : CheckedProblem} (h : s.Ready q) (on : Bool) :
    (s.setForce on).Ready q := by
  cases s with
  | quadProg s => exact h
  | osqp s => exact ⟨h.workspace, h.objective, h.constraints⟩
  | clarabel s => exact ⟨h.workspace, h.objective, h.constraints⟩
  | totsu s => trivial

theorem ready_solveChecked (s : Solver B) (p : CheckedProblem) (hvar : p.dims.var ≠ 0)
    (hok : (s.solveChecked p).value.failed = false) : (s.solveChecked p).value.Ready p := by
  cases s with
  | quadProg s => exact (s.solve_solved p).ready hvar hok
  | osqp s => exact (s.solve_solved p).ready hvar hok
  | clarabel s => exact (s.solve_solved p).ready hvar hok
  | totsu s => trivial

theorem not_crossed_of_solveChecked (s : Solver B) (p : CheckedProblem) (hvar : p.dims.var ≠ 0)
    (hok : (s.solveChecked p).value.failed = false) : s.kind = .osqp → ¬ Crossed p := by
  intro hkind
  cases s with
  | osqp s =>
    rw [← crossedRow?_splitting_eq_none_iff]
    exact (s.solve_solved p).crossedRow?_eq_none hvar hok
  | _ => cases hkind

/-- A warm start needs variables and a plan for one, whatever the adapter holds. -/
theorem plan_of_head?_attempts {s : Solver B} {p : CheckedProblem}
    (h : (s.solveChecked p).value.lastAttempts.head? = some .warm) :
    p.dims.var ≠ 0 ∧ s.record.warm.plan p.dims s.forces = .warm := by
  cases s with
  | quadProg s =>
    obtain ⟨hvar, hplan, -⟩ := (s.solve_solved p).head?_attempts.1 h
    exact ⟨hvar, hplan⟩
  | osqp s =>
    obtain ⟨hvar, -, hplan, -⟩ := (s.solve_solved p).head?_attempts.1 h
    exact ⟨hvar, hplan⟩
  | clarabel s =>
    obtain ⟨hvar, -, hplan, -⟩ := (s.solve_solved p).head?_attempts.1 h
    exact ⟨hvar, hplan⟩
  | totsu s => cases ((totsu s).outcome p).start_of_head? h

/-- Where the adapter is ready for problems like `q`, the plan and the matrices decide. -/
theorem head?_attempts_of_ready {s : Solver B} {q : CheckedProblem} (h : s.Ready q)
    (p : CheckedProblem) :
    (s.solveChecked p).value.lastAttempts.head? = some .warm ↔
      Reaches s.kind p ∧ s.record.warm.plan p.dims s.forces = .warm ∧ Reusable s.kind q p := by
  cases s with
  | quadProg s =>
    rw [reaches_iff_of_ne (by simp [kind])]
    exact (s.solve_solved p).head?_attempts.trans (and_congr_right' (h.triesWarm_iff p))
  | osqp s =>
    have hwarm := (s.solve_solved p).head?_attempts
    rw [crossedRow?_splitting_eq_none_iff, h.triesWarm_iff p, ← and_assoc] at hwarm
    rw [show (osqp s : Solver B).kind = .osqp from rfl, reaches_osqp_iff]
    exact hwarm
  | clarabel s =>
    have hwarm := (s.solve_solved p).head?_attempts
    rw [h.triesWarm_iff p] at hwarm
    rw [reaches_iff_of_ne (by simp [kind])]
    exact hwarm.trans (and_congr_right' (and_iff_right rfl))
  | totsu s =>
    constructor
    · intro hwarm
      cases ((totsu s).outcome p).start_of_head? hwarm
    · exact fun hwarm => absurd hwarm.2.2 id

/-! ## After a run -/

variable {config : Config} {kind : Kind} {s₀ : Solver B}

theorem record_of_fresh? (h : Catalogue.fresh? B config kind = some s₀) : s₀.record = {} := by
  cases kind <;> cases h <;> rfl

theorem kind_of_fresh? (h : Catalogue.fresh? B config kind = some s₀) : s₀.kind = kind := by
  cases kind <;> cases h <;> rfl

theorem kind_mem_of_forces {s : Solver B} (h : s.forces = false) :
    s.kind ∈ [.quadProg, .osqp, .clarabel] := by
  cases s with
  | totsu s => cases h
  | _ => simp [kind]

theorem kind_run (s : Solver B) (xs : List Step) : ((machine B).run s xs).value.kind = s.kind :=
  (machine B).run_invariant (I := fun _ t => t.kind = s.kind)
    (fun _ t p ht => (t.kind_solveChecked p).trans ht)
    (fun _ t on ht => (t.kind_setForce on).trans ht) rfl xs

theorem record_run_of_latest?_eq_none (hfresh : Catalogue.fresh? B config kind = some s₀)
    {xs : List Step} (h : (machine B).latest? s₀ xs = none) :
    ((machine B).run s₀ xs).value.record = {} :=
  Machine.run_of_latest?_eq_none (P := fun t => t.record = {})
    (fun t on ht => (t.record_setForce on).trans ht) h (record_of_fresh? hfresh)

theorem record_run_of_latest? {s : Solver B} {xs : List Step} {e : Machine.Entry (Solver B)}
    (h : (machine B).latest? s xs = some e) :
    ((machine B).run s xs).value.record = e.after.record :=
  Machine.run_of_latest? (P := fun t => t.record = e.after.record)
    (fun t on ht => (t.record_setForce on).trans ht) h rfl

theorem entry_of_mem_history {s : Solver B} {xs : List Step} {e : Machine.Entry (Solver B)}
    (h : e ∈ (machine B).history s xs) :
    e.before.kind = s.kind ∧ e.after = (e.before.solveChecked e.problem).value :=
  (machine B).mem_history (P := fun t => t.kind = s.kind)
    (fun t p ht => (t.kind_solveChecked p).trans ht) (fun t on ht => (t.kind_setForce on).trans ht)
    rfl h

theorem warm_run_of_latest? {s : Solver B} {xs : List Step} {e : Machine.Entry (Solver B)}
    (h : (machine B).latest? s xs = some e) :
    ((machine B).run s xs).value.record.warm = ⟨some e.problem.dims, !e.after.failed⟩ := by
  obtain ⟨-, hafter⟩ := entry_of_mem_history (List.mem_of_getLast? h)
  rw [record_run_of_latest? h, hafter]
  exact (e.before.outcome e.problem).warm_eq

theorem startState_eq_warm_iff {s : Solver B} {xs : List Step} {e : Machine.Entry (Solver B)}
    (h : (machine B).latest? s xs = some e) :
    ((machine B).run s xs).value.startState = .warm ↔
      ((machine B).run s xs).value.forces = false ∧ e.after.failed = false := by
  rw [startState_eq, warm_run_of_latest? h]
  cases ((machine B).run s xs).value.forces <;> simp [WarmStart.state]

theorem plan_run_of_latest? {s : Solver B} {xs : List Step} {e : Machine.Entry (Solver B)}
    (h : (machine B).latest? s xs = some e) (p : CheckedProblem) :
    let past := ((machine B).run s xs).value
    past.record.warm.plan p.dims past.forces = .warm ↔
      past.forces = false ∧ e.problem.dims = p.dims ∧ e.after.failed = false := by
  intro past
  rw [warm_run_of_latest? h, WarmStart.plan_eq_warm_iff]
  simp

/-- What a success with variables leaves is there until the next solve. -/
theorem ready_run_of_latest? {s : Solver B} {xs : List Step} {e : Machine.Entry (Solver B)}
    (h : (machine B).latest? s xs = some e) (hok : e.after.failed = false)
    (hvar : e.problem.dims.var ≠ 0) : ((machine B).run s xs).value.Ready e.problem := by
  obtain ⟨-, hafter⟩ := entry_of_mem_history (List.mem_of_getLast? h)
  rw [hafter] at hok
  refine Machine.run_of_latest? (P := fun t => t.Ready e.problem)
    (fun t on ht => ht.setForce on) h ?_
  rw [hafter]
  exact ready_solveChecked _ _ hvar hok

/-- A plan for a warm start is never made in vain. -/
theorem exists_ready_of_plan (hfresh : Catalogue.fresh? B config kind = some s₀) (xs : List Step)
    {p : CheckedProblem} (hvar : p.dims.var ≠ 0) :
    let past := ((machine B).run s₀ xs).value
    past.record.warm.plan p.dims past.forces = .warm → ∃ q, past.Ready q := by
  intro past hplan
  cases hlatest : (machine B).latest? s₀ xs with
  | none =>
    rw [show past.record = {} from record_run_of_latest?_eq_none hfresh hlatest,
      WarmStart.plan_eq_warm_iff] at hplan
    cases hplan.2.1
  | some e =>
    obtain ⟨-, hdims, hok⟩ := (plan_run_of_latest? hlatest p).1 hplan
    exact ⟨e.problem, ready_run_of_latest? hlatest hok (hdims ▸ hvar)⟩

/-- The latest solve of a run decides how the next one starts. -/
theorem head?_attempts_of_latest? {s : Solver B} {xs : List Step} {e : Machine.Entry (Solver B)}
    (h : (machine B).latest? s xs = some e) (p : CheckedProblem) :
    let past := ((machine B).run s xs).value
    (past.solveChecked p).value.lastAttempts.head? = some .warm ↔
      Reaches s.kind p ∧ past.forces = false ∧ e.after.failed = false ∧
        e.problem.dims = p.dims ∧ Reusable s.kind e.problem p := by
  intro past
  have hplan : past.record.warm.plan p.dims past.forces = .warm ↔
      past.forces = false ∧ e.problem.dims = p.dims ∧ e.after.failed = false :=
    plan_run_of_latest? h p
  -- A warm start needs a success with variables, and that leaves the adapter ready.
  have hwarm (hok : e.after.failed = false) (hvar : e.problem.dims.var ≠ 0) :=
    head?_attempts_of_ready (ready_run_of_latest? h hok hvar) p
  rw [hplan, show past.kind = s.kind from kind_run s xs] at hwarm
  constructor
  · intro hhead
    obtain ⟨hvar, hwarmPlan⟩ := plan_of_head?_attempts hhead
    obtain ⟨hforces, hdims, hok⟩ := hplan.1 hwarmPlan
    obtain ⟨hreaches, -, hreusable⟩ := (hwarm hok (hdims ▸ hvar)).1 hhead
    exact ⟨hreaches, hforces, hok, hdims, hreusable⟩
  · rintro ⟨hreaches, hforces, hok, hdims, hreusable⟩
    refine (hwarm hok ?_).2 ⟨hreaches, ⟨hforces, hdims, hok⟩, hreusable⟩
    rw [hdims]
    exact Nat.pos_iff_ne_zero.1 hreaches.1

/-! ## When a solve starts warm -/

/-- Warm starts over whole runs. The latest solve that was not refused decides, and refused problems
might as well have been left out. -/
theorem starts_warm_iff (B : Backends) (config : Config) (kind : Kind) (s₀ : Solver B)
    (hfresh : Catalogue.fresh? B config kind = some s₀) (xs : List Step) (p : CheckedProblem)
    (hvar : 0 < p.dims.var) (hbounds : kind = .osqp → ¬ Crossed p) :
    let past := ((machine B).run s₀ xs).value
    ((past.solveChecked p).value.lastAttempts.head? = some .warm ↔
      past.forces = false ∧ ∃ e, (machine B).latest? s₀ xs = some e ∧ e.problem.dims = p.dims ∧
        e.after.failed = false ∧ Reusable kind e.problem p) ∧
      (machine B).run s₀ (xs.filter Step.accepted) = (machine B).run s₀ xs := by
  intro past
  refine ⟨?_, (machine B).run_filter_accepted s₀ xs⟩
  cases hlatest : (machine B).latest? s₀ xs with
  | none =>
    -- Without a solve the record is still the first one, and that plans no warm start.
    have hrecord : past.record = {} := record_run_of_latest?_eq_none hfresh hlatest
    constructor
    · intro hhead
      obtain ⟨-, hplan⟩ := plan_of_head?_attempts hhead
      rw [hrecord, WarmStart.plan_eq_warm_iff] at hplan
      cases hplan.2.1
    · rintro ⟨-, e, he, -⟩
      cases he
  | some e =>
    have hhead := head?_attempts_of_latest? hlatest p
    rw [kind_of_fresh? hfresh] at hhead
    refine hhead.trans ?_
    constructor
    · rintro ⟨-, hforces, hok, hdims, hreusable⟩
      exact ⟨hforces, e, rfl, hdims, hok, hreusable⟩
    · rintro ⟨hforces, f, hf, hdims, hok, hreusable⟩
      obtain rfl := Option.some.inj hf
      exact ⟨⟨hvar, hbounds⟩, hforces, hok, hdims, hreusable⟩

def hotOsqp : Config :=
  { Config.default with osqp := { Config.defaultOsqp with forceInitialize := false } }

/-- A start, a refused problem, and a switch there and back. -/
def pauses : List Step :=
  [.solve (capped 2).problem, .solve { (capped 2).problem with objVec := [] }, .force true,
    .force false]

theorem starts_warm_iff_capped :
    let s₀ : Solver .interval := .osqp (.new hotOsqp.osqp)
    let past := ((machine .interval).run s₀ pauses).value
    Catalogue.fresh? .interval hotOsqp .osqp = some s₀ ∧ ¬ Crossed (capped 3) ∧
      (past.solveChecked (capped 3)).value.lastAttempts = [.warm] ∧
      ∃ e, (machine .interval).latest? s₀ pauses = some e ∧ e.after.failed = false ∧
        Reusable .osqp e.problem (capped 3) := by
  intro s₀ past
  have hbounds : ¬ Crossed (capped 3) := by
    rw [← crossedRow?_splitting_eq_none_iff]
    decide +kernel
  have hattempts : (past.solveChecked (capped 3)).value.lastAttempts = [.warm] := by
    decide +kernel
  obtain ⟨hwarm, -⟩ := starts_warm_iff .interval hotOsqp .osqp s₀ rfl pauses (capped 3) (by decide)
    fun _ => hbounds
  obtain ⟨-, e, hlatest, -, hok, hreusable⟩ :=
    hwarm.1 (by rw [hattempts, List.head?_cons])
  exact ⟨rfl, hbounds, hattempts, e, hlatest, hok, hreusable⟩

/-! ## The same problem again -/

/-- A second solve of the problem could start warm: there are variables, and the objective, where it
is compared, equals itself. -/
def Repeatable (kind : Kind) (q : CheckedProblem) : Prop :=
  0 < q.dims.var ∧ (kind = .quadProg → ∀ r c, (q.problem.objMat.entry r c).isNaN = false)

theorem reusable_self_iff {kind : Kind} (hkind : kind ∈ [.quadProg, .osqp, .clarabel])
    (q : CheckedProblem) (hvar : 0 < q.dims.var) : Reusable kind q q ↔ Repeatable kind q := by
  have hsame (T : Workspace.Technique) :
      Workspace.SamePositions (Workspace.dataOf T q) (Workspace.dataOf T q) := by
    simp [Workspace.samePositions_iff]
  cases kind with
  | quadProg => simp [Reusable, Repeatable, Matrix.equalEntries_self_iff, hvar]
  | osqp => simpa [Reusable, Repeatable, hvar] using hsame splitting
  | clarabel => simpa [Reusable, Repeatable, hvar] using hsame interiorPoint
  | _ => simp at hkind

/-- The problem of the latest solve, solved again, starts as announced if a cold start was announced
or the problem is repeatable, and not otherwise. -/
theorem repeated_start_iff (B : Backends) (s₀ : Solver B) (xs : List Step)
    (e : Machine.Entry (Solver B)) (hlatest : (machine B).latest? s₀ xs = some e) :
    let past := ((machine B).run s₀ xs).value
    (past.solveChecked e.problem).value.lastAttempts.head? = some past.startState ↔
      past.startState = .cold ∨ Repeatable s₀.kind e.problem := by
  intro past
  have hout : past.record.Outcome past.startState _ _ _ := past.outcome e.problem
  cases hstart : past.startState with
  | cold =>
    simp only [true_or, iff_true]
    refine hout.head?_attempts.2 fun hhead => ?_
    rw [hout.start_of_head? hhead] at hstart
    cases hstart
  | warm =>
    obtain ⟨hforces, hok⟩ := (startState_eq_warm_iff hlatest).1 hstart
    obtain ⟨hkind, hafter⟩ := entry_of_mem_history (List.mem_of_getLast? hlatest)
    have hmem : s₀.kind ∈ [.quadProg, .osqp, .clarabel] := by
      rw [← kind_run s₀ xs]
      exact kind_mem_of_forces hforces
    have hhead := head?_attempts_of_latest? hlatest e.problem
    simp only [reduceCtorEq, false_or]
    refine hhead.trans ?_
    constructor
    · rintro ⟨hreaches, -, -, -, hreusable⟩
      exact (reusable_self_iff hmem e.problem hreaches.1).1 hreusable
    · intro hrepeatable
      have hvar := hrepeatable.1
      refine ⟨⟨hvar, ?_⟩, hforces, hok, rfl, (reusable_self_iff hmem e.problem hvar).2 hrepeatable⟩
      rw [← hkind]
      rw [hafter] at hok
      exact not_crossed_of_solveChecked _ _ (Nat.pos_iff_ne_zero.1 hvar) hok

theorem repeated_start_iff_capped :
    let s₀ : Solver .interval := .quadProg (.new Config.defaultQuadProg)
    let xs : List Step := [.solve (capped 2).problem]
    let past := ((machine .interval).run s₀ xs).value
    ∃ e, (machine .interval).latest? s₀ xs = some e ∧ Repeatable .quadProg e.problem ∧
      past.startState = .warm ∧
      (past.solveChecked e.problem).value.lastAttempts.head? = some .warm := by
  intro s₀ xs past
  have hstart : past.startState = .warm := by decide +kernel
  have hrepeatable : Repeatable .quadProg (capped 2) := by
    refine ⟨by decide, fun _ => by decide +kernel⟩
  refine ⟨⟨capped 2, s₀, past⟩, rfl, hrepeatable, hstart, ?_⟩
  rw [← hstart]
  exact (repeated_start_iff .interval s₀ xs _ rfl).2 (.inr hrepeatable)

/-- Nothing is kept of a problem without variables, but a warm start is announced. -/
theorem repeated_start_withoutVariables :
    let p : CheckedProblem := ⟨.new ⟨0, 0, 0⟩, fun f => by cases f <;> rfl⟩
    let s₀ : Solver .native := .quadProg (.new Config.defaultQuadProg)
    let past := ((machine .native).run s₀ [.solve p.problem]).value
    (∃ e, (machine .native).latest? s₀ [.solve p.problem] = some e ∧ e.problem = p) ∧
      past.startState = .warm ∧ (past.solveChecked p).value.lastAttempts = [.cold] := by
  intro p s₀ past
  exact ⟨⟨_, rfl, rfl⟩, by decide +kernel, by decide +kernel⟩

end QuadOpt.Solver
