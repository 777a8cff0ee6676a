import QuadOpt.Proofs.Attempts
import QuadOpt.Proofs.Finding
import QuadOpt.Proofs.Solver.Cold
import QuadOpt.Proofs.Workspace.WarmStart

/-!
# What the log says of a solve

Lines are written where things happen: by the plan, by each attempt, between the two attempts, and at
the end. Put together they tell how the solve went.
-/

namespace QuadOpt

/-! ## True logs -/

/-- The log of a solve and the record that it leaves tell the same. A failure is reported once, at
the end, with the reason that a cold start finds. -/
structure Truthful (kind : Kind) (p : CheckedProblem) (plan : StartState) (found : Option Reason)
    (taken : Prop) (r : Record) (lines : List Log.Line) : Prop
    extends Told kind plan (Solver.Reaches kind p) taken r.attempts lines where
  failed : r.failed = true → ∃ reason, found = some reason ∧
    lines.filter (·.level = .warn) = [.solveFailed kind p.dims reason] ∧
    lines.getLast? = some (.solveFailed kind p.dims reason)
  succeeded : r.failed = false → ∀ line ∈ lines, line.level ≠ .warn

section

variable {kind : Kind} {plan : StartState} {reaches taken : Prop} {attempts : List StartState}
  {lines : List Log.Line} {line : Log.Line}

/-- A line that says nothing of starts. -/
structure Log.Line.Plain (line : Log.Line) : Prop where
  ne_hotStartFailed : ∀ k reason, line ≠ .hotStartFailed k reason
  ne_changeLine : ∀ k, line ≠ changeLine k
  reportsRun : line.reportsRun = false

theorem plain_sparseConversion (kind : Kind) (n k : Nat) :
    (Log.Line.sparseConversion kind n k).Plain where
  ne_hotStartFailed := by simp
  ne_changeLine k := by cases k <;> simp [changeLine]
  reportsRun := rfl

theorem plain_solveFailed (kind : Kind) (dims : Dims) (reason : Reason) :
    (Log.Line.solveFailed kind dims reason).Plain where
  ne_hotStartFailed := by simp
  ne_changeLine k := by cases k <;> simp [changeLine]
  reportsRun := rfl

theorem Told.append_plain (h : Told kind plan reaches taken attempts lines)
    {before after : List Log.Line} (hbefore : ∀ line ∈ before, line.Plain)
    (hafter : ∀ line ∈ after, line.Plain) :
    Told kind plan reaches taken attempts (before ++ lines ++ after) := by
  have hcount {ls : List Log.Line} (hls : ∀ line ∈ ls, line.Plain) :
      ls.countP (·.reportsRun) = 0 := by
    rw [List.countP_eq_zero]
    intro line hline
    simp [(hls line hline).reportsRun]
  have hfailed {ls : List Log.Line} (hls : ∀ line ∈ ls, line.Plain) (k : Kind) (reason : Reason) :
      .hotStartFailed k reason ∉ ls :=
    fun hline => (hls _ hline).ne_hotStartFailed k reason rfl
  have hchange {ls : List Log.Line} (hls : ∀ line ∈ ls, line.Plain) : changeLine kind ∉ ls :=
    fun hline => (hls _ hline).ne_changeLine kind rfl
  constructor
  · simp [hfailed hbefore, hfailed hafter, h.failedStart]
  · simp [hchange hbefore, hchange hafter, h.change]
  · intro hkind htaken hreaches
    simp [hcount hbefore, hcount hafter, h.runs hkind htaken hreaches]

theorem told_nil (hplan : plan = .warm → ¬ reaches) (hkind : kind = .clarabel → ¬ reaches) :
    Told kind plan reaches taken [.cold] [] where
  failedStart := by simp
  change := by simpa using hplan
  runs hclarabel _ hreaches := absurd hreaches (hkind hclarabel)

end

/-- A failure adds the only warning, and adds it as the last line. -/
theorem truthful_of_told {kind : Kind} {p : CheckedProblem} {plan : StartState}
    {found : Option Reason} {taken : Prop} {r : Record} {attempts : List StartState} {a : Attempt}
    {lines : List Log.Line} (before : List Log.Line)
    (htold : Told kind plan (Solver.Reaches kind p) taken attempts lines)
    (hbefore : ∀ line ∈ before, line.Plain) (hquiet : ∀ line ∈ before ++ lines, line.level ≠ .warn)
    (hfound : a.failure ≠ none → a.failure = found) :
    Truthful kind p plan found taken (r.after p.dims attempts a)
      (before ++ lines ++ a.failure.toList.map (.solveFailed kind p.dims)) := by
  have hafter : ∀ line ∈ a.failure.toList.map (Log.Line.solveFailed kind p.dims), line.Plain := by
    intro line hline
    obtain ⟨reason, -, rfl⟩ := List.mem_map.1 hline
    exact plain_solveFailed kind p.dims reason
  have hfailed : (r.after p.dims attempts a).failed = a.failure.isSome := r.failed_after ..
  refine { htold.append_plain hbefore hafter with failed := ?_, succeeded := ?_ }
  · intro hfail
    rw [hfailed, Option.isSome_iff_exists] at hfail
    obtain ⟨reason, hreason⟩ := hfail
    have hnone : (before ++ lines).filter (·.level = .warn) = [] := by
      rw [List.filter_eq_nil_iff]
      simpa using hquiet
    refine ⟨reason, ?_, ?_, ?_⟩
    · rw [← hfound (by simp [hreason]), hreason]
    · rw [List.filter_append, hnone, hreason]
      rfl
    · simp [hreason]
  · intro hok
    rw [hfailed, Option.isSome_eq_false_iff, Option.isNone_iff_eq_none] at hok
    rw [hok, Option.toList_none, List.map_nil, List.append_nil]
    exact hquiet

/-- A cold start that needs no explanation leaves only a failure to report. -/
theorem truthful_of_cold {kind : Kind} {p : CheckedProblem} {plan : StartState}
    {found : Option Reason} {taken : Prop} {r : Record} {a : Attempt} (before : List Log.Line)
    (hplan : plan = .warm → ¬ Solver.Reaches kind p)
    (hkind : kind = .clarabel → ¬ Solver.Reaches kind p) (hbefore : ∀ line ∈ before, line.Plain)
    (hquiet : ∀ line ∈ before, line.level ≠ .warn) (hfound : a.failure = found) :
    Truthful kind p plan found taken (r.after p.dims [.cold] a)
      (before ++ a.failure.toList.map (.solveFailed kind p.dims)) := by
  have htold : Told kind plan (Solver.Reaches kind p) taken [.cold] [] := told_nil hplan hkind
  have h := truthful_of_told (r := r) before htold hbefore (by simpa using hquiet) fun _ => hfound
  rwa [List.append_nil] at h

/-! ## The adapters that keep a workspace -/

namespace Workspace

variable {T : Technique} {B : Backend T}

/-- What can be told from the kind of a technique. -/
structure Technique.Logs (T : Technique) : Prop where
  patterns : T.kind ≠ .quadProg
  announces : T.kind = .clarabel → T.announces = true
  accepts : T.kind = .clarabel → IsEmpty T.Refusal
  reaches_iff : ∀ p, Solver.Reaches T.kind p ↔ p.dims.var ≠ 0 ∧ T.crossedRow? p = none

theorem splitting_logs : Technique.Logs splitting where
  patterns := by decide
  announces h := by cases h
  accepts h := by cases h
  reaches_iff p := by
    rw [Solver.reaches_osqp_iff, Solver.crossedRow?_splitting_eq_none_iff]

theorem interiorPoint_logs : Technique.Logs interiorPoint where
  patterns := by decide
  announces _ := rfl
  accepts _ := inferInstanceAs (IsEmpty Empty)
  reaches_iff p := (Solver.reaches_iff_of_ne (by decide) p).trans (and_iff_left rfl).symm

theorem Live.logs_run (w : Live T B) (acceptMaxIterations : Bool) (stale : List Float) :
    (w.run acceptMaxIterations stale).logs =
      let finish := (B.run w.data w.settings w.memory).1
      if T.announces then [.finished T.kind finish.iterations (T.statusText finish.status)]
      else [] := by
  unfold run
  cases T.announces <;> simp

theorem Live.attemptLog_run (hT : T.Logs) (w : Live T B) (acceptMaxIterations : Bool)
    (stale : List Float) {ran : Prop} :
    AttemptLog T.kind ran (w.run acceptMaxIterations stale).logs := by
  rw [logs_run]
  dsimp only
  constructor
  · intro line hline
    split at hline
    · exact ⟨_, _, List.mem_singleton.1 hline⟩
    · cases hline
  · intro hkind _
    rw [if_pos (hT.announces hkind), List.length_singleton]

namespace State

variable (s : State T B) (p : CheckedProblem)

theorem logs_forM_change (cs : List (Change T)) :
    (cs.forM fun c => Traced.call (.change c) : Traced (Call T) PUnit).logs = [] := by
  induction cs with
  | nil => rfl
  | cons c cs ih =>
    rw [List.forM, Traced.logs_bind, Traced.logs_call, ih]
    rfl

/-- If a warm attempt is made, the method takes the changes to the live workspace. -/
def Taken : Prop :=
  s.triesWarm p → ∀ live, s.workspace = some live →
    ∃ left, live.update (dataOf T p).changes = .ok left

theorem attemptLog_warmRun (hT : T.Logs) (hwarm : s.triesWarm p) {live : Live T B}
    (hlive : s.workspace = some live) :
    AttemptLog T.kind (s.Taken p) (s.warmRun (dataOf T p) (s.stale p) live).logs := by
  unfold warmRun
  rw [Traced.logs_bind, logs_forM_change, List.nil_append]
  cases hupdate : live.update (dataOf T p).changes with
  | error refusal =>
    refine attemptLog_nil fun _ htaken => ?_
    obtain ⟨left, hleft⟩ := htaken hwarm live hlive
    rw [hupdate] at hleft
    cases hleft
  | ok left => exact Live.attemptLog_run hT _ _ _

theorem attemptLog_coldSolve (hT : T.Logs) (d : Data T) (stale : List Float) :
    AttemptLog T.kind True (s.coldSolve d stale).logs := by
  unfold coldSolve
  cases B.setup d s.config.settings with
  | error refusal => exact attemptLog_nil fun hkind => ((hT.accepts hkind).false refusal).elim
  | ok memory => simpa using Live.attemptLog_run hT _ _ _

theorem warmLog (hT : T.Logs)
    (hready : s.record.warm.plan p.dims s.config.forceInitialize = .warm → s.workspace ≠ none) :
    WarmLog T.kind (s.record.warm.plan p.dims s.config.forceInitialize) (s.Taken p)
      (s.warmAttempt p.dims (dataOf T p) (s.fits (dataOf T p)) (s.stale p)) := by
  by_cases hwarm : s.triesWarm p
  · obtain ⟨live, hlive⟩ := Option.ne_none_iff_exists'.1 hwarm.2.2
    rw [s.warmAttempt_of_triesWarm p hwarm]
    constructor
    · intro _
      rw [s.hotSolve_of_some _ _ hlive, Traced.logs_map]
      exact s.attemptLog_warmRun p hT hwarm hlive
    · intro hnone
      rw [s.hotSolve_of_some _ _ hlive] at hnone
      cases hnone
  · constructor
    · exact fun hsome => absurd (s.warmAttempt_of_not_triesWarm p hwarm).2 hsome
    · intro _
      unfold warmAttempt
      cases hplan : s.record.warm.plan p.dims s.config.forceInitialize with
      | cold => rfl
      | warm =>
        -- There is a plan and a workspace, so only the pattern can be in the way.
        have hfits : s.fits (dataOf T p) = false := by
          by_contra hfits
          exact hwarm ⟨hplan, by simpa using hfits, hready hplan⟩
        rw [hfits, changeLine_of_ne hT.patterns]
        rfl

theorem tried_made :
    Tried T.kind (s.warmAttempt p.dims (dataOf T p) (s.fits (dataOf T p)) (s.stale p))
      (s.coldSolve (dataOf T p) (s.stale p)) (s.made p).value.1 (s.made p).value.2.1
      (s.made p).logs := by
  rw [made, attempt_eq]
  exact tried _ _ _ _

theorem failure_coldSolve (d : Data T) (stale : List Float) :
    (s.coldSolve d stale).value.1.failure = (foundBy B s.config d).value.failure := by
  have hvalue := congrArg (·.value.failure) (s.attempt_coldSolve d stale)
  exact hvalue

theorem plain_conversionLine : (conversionLine T p).Plain := plain_sparseConversion _ _ _

theorem truthful (hT : T.Logs)
    (hready : p.dims.var ≠ 0 →
      s.record.warm.plan p.dims s.config.forceInitialize = .warm → s.workspace ≠ none) :
    Truthful T.kind p (s.record.warm.plan p.dims s.config.forceInitialize)
      (finding B s.config p).value.failure (s.Taken p) (s.solve p).value.record
      (s.solve p).logs := by
  by_cases hvar : p.dims.var = 0
  · rw [(s.solve_of_withoutVariables p hvar).2, s.logs_solve_of_withoutVariables p hvar, finding,
      if_pos hvar]
    have hreaches : ¬ Solver.Reaches T.kind p := by simp [hT.reaches_iff, hvar]
    exact truthful_of_cold [] (fun _ => hreaches) (fun _ => hreaches) (by simp) (by simp) rfl
  cases hrow : T.crossedRow? p with
  | some row =>
    rw [(s.solve_of_crossed p hvar hrow).2, s.logs_solve_of_crossed p hvar hrow]
    have hreaches : ¬ Solver.Reaches T.kind p := by simp [hT.reaches_iff, hrow]
    have hfound : (finding B s.config p).value.failure = some (.crossedBounds row) := by
      simp [finding, hvar, hrow]
    exact truthful_of_cold [conversionLine T p] (fun _ => hreaches) (fun _ => hreaches)
      (by simpa using plain_conversionLine p) (by simp [conversionLine, Log.Line.level]) hfound.symm
  | none =>
    rw [(s.solve_of_not_crossed p hvar hrow).2, s.logs_solve_of_not_crossed p hvar hrow]
    have hwarm := s.warmLog p hT (hready hvar)
    have hcold := s.attemptLog_coldSolve hT (dataOf T p) (s.stale p)
    have htried := s.tried_made p
    have hfound : (finding B s.config p).value.failure =
        (s.coldSolve (dataOf T p) (s.stale p)).value.1.failure := by
      rw [s.failure_coldSolve]
      simp [finding, hvar, hrow]
    refine truthful_of_told [conversionLine T p] (htried.told hwarm hcold ?_)
      (by simpa using plain_conversionLine p) ?_ ?_
    · exact (hT.reaches_iff p).2 ⟨hvar, hrow⟩
    · rw [List.singleton_append, List.forall_mem_cons]
      exact ⟨by simp [conversionLine, Log.Line.level], htried.level_ne_warn hwarm hcold⟩
    · exact fun hfailed => (htried.failure_eq hfailed).trans hfound.symm

end State

end Workspace

/-! ## The adapter that keeps a factor -/

namespace Factored.State

variable {B : Backend} (s : State) (p : CheckedProblem)

theorem logs_callBackend (inverse : Matrix Float) (rows : FlatRows) :
    (s.callBackend B inverse p rows).logs = [] := by
  unfold callBackend
  cases hsolve : B.solve inverse.columnMajor p.problem.objVec rows <;> simp [hsolve]

theorem logs_coldSolve (rows : FlatRows) : (s.coldSolve B p rows).logs = [] := by
  unfold coldSolve
  cases B.factor p.problem.objMat <;> simp [logs_callBackend]

theorem failure_coldAttempt (hvar : p.dims.var ≠ 0) :
    (s.coldAttempt p B).1.failure = (finding B p).value.failure := by
  rw [coldAttempt_eq, finding, if_neg hvar]
  cases B.factor p.problem.objMat with
  | none => rfl
  | some inverse =>
    show (s.attemptWith p B inverse).failure = _
    rw [attemptWith_eq]
    cases hsolve : B.solve inverse.columnMajor p.problem.objVec p.flatRows <;>
      simp [hsolve, Attempt.failed, Attempt.solved]

theorem warmLog
    (hready : s.record.warm.plan p.dims s.config.forceInitialize = .warm → s.factor ≠ none) :
    WarmLog .quadProg (s.record.warm.plan p.dims s.config.forceInitialize) True
      (s.warmAttempt p B) := by
  unfold warmAttempt hotSolve
  cases hplan : s.record.warm.plan p.dims s.config.forceInitialize with
  | cold => exact ⟨by simp, by simp⟩
  | warm =>
    -- There is a plan and a factor, so only another objective can be in the way.
    obtain ⟨cached, hkept⟩ := Option.ne_none_iff_exists'.1 (hready hplan)
    simp only [hkept]
    split
    · refine ⟨fun _ => ?_, by simp⟩
      simpa [logs_callBackend] using attemptLog_nil (by simp)
    · exact ⟨by simp, by simp [changeLine]⟩

theorem logs_solve (hvar : p.dims.var ≠ 0) :
    (s.solve B p).logs = (s.made p B).logs ++
      (s.made p B).value.2.1.failure.toList.map (.solveFailed .quadProg p.dims) := by
  unfold solve made warmAttempt
  rw [if_neg hvar]
  cases s.record.warm.plan p.dims s.config.forceInitialize <;>
    simp only [Traced.logs_bind, Traced.logs_pure, Record.logs_finish, Traced.value_bind,
      Traced.value_pure, List.append_nil, List.nil_append, List.append_assoc]

theorem truthful
    (hready : p.dims.var ≠ 0 →
      s.record.warm.plan p.dims s.config.forceInitialize = .warm → s.factor ≠ none) :
    Truthful .quadProg p (s.record.warm.plan p.dims s.config.forceInitialize)
      (finding B p).value.failure True (s.solve B p).value.record (s.solve B p).logs := by
  have hreaches : Solver.Reaches .quadProg p ↔ p.dims.var ≠ 0 :=
    Solver.reaches_iff_of_ne (by decide) p
  by_cases hvar : p.dims.var = 0
  · have hsolve : (s.solve B p).logs =
        (Attempt.withoutVariables p).failure.toList.map (.solveFailed .quadProg p.dims) := by
      simp [solve, hvar, Record.logs_finish]
    have hrecord : (s.solve B p).value.record =
        s.record.after p.dims [.cold] (.withoutVariables p) := by
      simp [solve, hvar]
    rw [hsolve, hrecord, finding, if_pos hvar]
    exact truthful_of_cold [] (by simp [hreaches, hvar]) (by simp) (by simp) (by simp) rfl
  · rw [s.logs_solve p hvar, s.value_solve p hvar]
    have hwarm := s.warmLog p (B := B) (hready hvar)
    have hcold : AttemptLog .quadProg True (s.coldSolve B p p.flatRows).logs := by
      rw [logs_coldSolve]
      exact attemptLog_nil (by simp)
    have htried := tried .quadProg s.factor (s.warmAttempt p B) (s.coldSolve B p p.flatRows)
    refine truthful_of_told [] (htried.told hwarm hcold (hreaches.2 hvar)) (by simp)
      (htried.level_ne_warn hwarm hcold) fun hfailed => ?_
    exact (htried.failure_eq hfailed).trans (s.failure_coldAttempt p hvar)

end Factored.State

/-! ## The conic adapter -/

namespace Conic.State

variable {B : Backend} (s : State) (p : CheckedProblem)

theorem logs_coldSolve : (s.coldSolve B p).logs = [] := by
  unfold coldSolve
  cases hsolve : B.solve (dataOf p) s.config <;> simp [hsolve]

theorem failure_coldSolve (hvar : p.dims.var ≠ 0) :
    (s.coldSolve B p).value.failure = (finding B s.config p).value.failure := by
  rw [value_coldSolve, finding, if_neg hvar]
  cases B.solve (dataOf p) s.config <;> simp [Attempt.failed, Attempt.solved]

theorem logs_solve :
    (s.solve B p).logs = (if p.dims.var = 0 then Attempt.withoutVariables p
      else (s.coldSolve B p).value).failure.toList.map (.solveFailed .totsu p.dims) := by
  unfold solve
  split <;> simp [logs_coldSolve, Record.logs_finish]

theorem truthful {plan : StartState} (hplan : plan = .cold) :
    Truthful .totsu p plan (finding B s.config p).value.failure True (s.solve B p).value.record
      (s.solve B p).logs := by
  rw [logs_solve, value_solve]
  refine truthful_of_cold [] (by simp [hplan]) (by simp) (by simp) (by simp) ?_
  split
  · next hvar => rw [finding, if_pos hvar]; rfl
  · next hvar => exact s.failure_coldSolve p hvar

end Conic.State

/-! ## All four adapters -/

namespace Solver

variable {B : Backends}

/-- If a warm attempt is made, the method takes the changes that it begins with. -/
def Taken : Solver B → CheckedProblem → Prop
  | osqp s, p => s.Taken p
  | clarabel s, p => s.Taken p
  | _, _ => True

theorem truthful_of_ready (s : Solver B) (p : CheckedProblem)
    (hready : p.dims.var ≠ 0 → s.record.warm.plan p.dims s.forces = .warm → ∃ q, s.Ready q) :
    Truthful s.kind p (s.record.warm.plan p.dims s.forces) (s.finding p).value.failure (s.Taken p)
      (s.solveChecked p).value.record (s.solveChecked p).logs := by
  cases s with
  | quadProg s =>
    rw [solveChecked, Traced.logs_map, Traced.logs_mapCalls]
    refine s.truthful p fun hvar hplan => ?_
    obtain ⟨q, cached, hkept, -⟩ := hready hvar hplan
    simp [hkept]
  | osqp s =>
    rw [solveChecked, Traced.logs_map, Traced.logs_mapCalls]
    refine s.truthful p Workspace.splitting_logs fun hvar hplan => ?_
    obtain ⟨q, hq⟩ := hready hvar hplan
    exact hq.workspace
  | clarabel s =>
    rw [solveChecked, Traced.logs_map, Traced.logs_mapCalls]
    refine s.truthful p Workspace.interiorPoint_logs fun hvar hplan => ?_
    obtain ⟨q, hq⟩ := hready hvar hplan
    exact hq.workspace
  | totsu s =>
    rw [solveChecked, Traced.logs_map, Traced.logs_mapCalls]
    exact s.truthful p (by simp [forces, WarmStart.plan])

/-- A warm attempt is made on data of the same layout, which such a method takes. -/
theorem taken_of_takesUpdates (hB : B.interiorPoint.TakesUpdates) {config : Config}
    {s₀ : Solver B} (hfresh : Catalogue.fresh? B config .clarabel = some s₀) (xs : List Step)
    (p : CheckedProblem) : ((machine B).run s₀ xs).value.Taken p := by
  obtain rfl := Option.some.inj hfresh
  rw [run_clarabel]
  exact fun hwarm live hlive => Workspace.exists_update_of_triesWarm interiorPoint_fixesCones hB
    (Workspace.keeps_run interiorPoint_fixesCones config.clarabel xs) hwarm hlive

/-- Whatever was solved before, the log of a solve tells what was tried, how often the method ran
where it reports that and takes updates, why a planned warm start was not made, and why the solve
failed. -/
theorem log_truthful (B : Backends) (config : Config) (kind : Kind) (s₀ : Solver B)
    (hfresh : Catalogue.fresh? B config kind = some s₀) (xs : List Step) (p : CheckedProblem) :
    let past := ((machine B).run s₀ xs).value
    let solved := past.solveChecked p
    Truthful kind p (past.record.warm.plan p.dims past.forces) (past.finding p).value.failure
      B.interiorPoint.TakesUpdates solved.value.record solved.logs := by
  intro past solved
  have hkind : past.kind = kind := (kind_run s₀ xs).trans (kind_of_fresh? hfresh)
  have htrue := past.truthful_of_ready p fun hvar hplan => exists_ready_of_plan hfresh xs hvar hplan
  rw [hkind] at htrue
  refine { htrue with runs := fun hclarabel hB hreaches => ?_ }
  subst hclarabel
  exact htrue.runs rfl (taken_of_takesUpdates hB hfresh xs p) hreaches

theorem takesUpdates_interval : Backends.interval.interiorPoint.TakesUpdates :=
  fun _ _ _ => ⟨_, rfl⟩

/-- A warm attempt fails, and so does the cold one: two runs, and one warning. -/
theorem log_truthful_capped :
    let s₀ : Solver .interval := .clarabel (.new Config.defaultClarabel)
    let past := ((machine .interval).run s₀ [.solve (capped 2).problem]).value
    let solved := past.solveChecked (capped (-1))
    Catalogue.fresh? .interval Config.default .clarabel = some s₀ ∧
      solved.value.record.attempts = [.warm, .cold] ∧ solved.value.record.failed = true ∧
      (∃ k reason, .hotStartFailed k reason ∈ solved.logs) ∧
      solved.logs.countP (·.reportsRun) = 2 ∧
      ∃ reason, solved.logs.filter (·.level = .warn) =
        [.solveFailed .clarabel (capped (-1)).dims reason] := by
  intro s₀ past solved
  have hattempts : solved.value.record.attempts = [.warm, .cold] := by decide +kernel
  have hfailed : solved.value.record.failed = true := by decide +kernel
  have htrue := log_truthful .interval Config.default .clarabel s₀ rfl
    [.solve (capped 2).problem] (capped (-1))
  have hruns := htrue.runs rfl takesUpdates_interval ⟨by decide, by simp⟩
  rw [hattempts] at hruns
  obtain ⟨reason, -, hwarning, -⟩ := htrue.failed hfailed
  exact ⟨rfl, hattempts, hfailed, htrue.failedStart.2 hattempts, hruns, reason, hwarning⟩

/-- A warm attempt whose update is refused makes no run, so the cold one is the only run. -/
example :
    let B : Backends := { Backends.interval with
      interiorPoint := { Backends.interval.interiorPoint with
        update := fun _ _ _ _ => .error "the pattern changed" } }
    let s₀ : Solver B := .clarabel (.new Config.defaultClarabel)
    let solved := ((machine B).run s₀ [.solve (capped 2).problem]).value.solveChecked (capped 3)
    solved.value.record.attempts = [.warm, .cold] ∧ solved.logs.countP (·.reportsRun) = 1 := by
  decide +kernel

end Solver

end QuadOpt
