import QuadOpt.Proofs.Run

/-!
# The paths of a solve with a workspace

A solve takes one of five paths: it settles without the native method, because there are no variables
or because bounds are crossed, it starts cold, it starts warm, or it starts warm, fails and starts
cold. A warm start fails in its run, or before it when the changes are refused. `Solved` lists the
paths with the native calls and the state that each leaves; every law about these adapters is a case
analysis on it.
-/

namespace QuadOpt.Workspace

variable {T : Technique} {B : Backend T}

/-! ## Native runs -/

namespace Live

variable (w : Live T B) (acceptMaxIterations : Bool) (stale : List Float)

@[simp] theorem calls_run : (w.run acceptMaxIterations stale).calls = [.run] := by
  unfold run
  cases T.announces <;> simp

@[simp] theorem data_run : (w.run acceptMaxIterations stale).value.2.data = w.data := by
  unfold run
  cases T.announces <;> rfl

@[simp] theorem settings_run :
    (w.run acceptMaxIterations stale).value.2.settings = w.settings := by
  unfold run
  cases T.announces <;> rfl

variable {w} {left : Live T B} {changes : List (Change T)}

/-- Changes that are taken are all made; what the method remembers may change with them. -/
theorem exists_memory_of_update (h : w.update changes = .ok left) :
    ∃ memory, left = { w.applyAll changes with memory } := by
  unfold update at h
  cases hmemory : B.update w.data w.settings w.memory changes with
  | error refusal =>
    rw [hmemory] at h
    cases h
  | ok memory =>
    rw [hmemory] at h
    exact ⟨memory, (Except.ok.inj h).symm⟩

theorem data_update (h : w.update changes = .ok left) : left.data = (w.applyAll changes).data := by
  obtain ⟨memory, rfl⟩ := exists_memory_of_update h
  rfl

theorem settings_update (h : w.update changes = .ok left) : left.settings = w.settings := by
  obtain ⟨memory, rfl⟩ := exists_memory_of_update h
  rfl

end Live

namespace State

variable (s : State T B)

/-! ## Attempts -/

def changeCalls (d : Data T) : List (Call T) := d.changes.map .change

theorem calls_forM_change (cs : List (Change T)) :
    (cs.forM fun c => Traced.call (.change c) : Traced (Call T) PUnit).calls =
      cs.map .change := by
  induction cs with
  | nil => rfl
  | cons c cs ih =>
    rw [List.forM, Traced.calls_bind, Traced.calls_call, ih]
    rfl

theorem hotSolve_of_some (d : Data T) (stale : List Float) {live : Live T B}
    (hlive : s.workspace = some live) :
    s.hotSolve d stale =
      (fun made => some (made.1, some made.2)) <$> s.warmRun d stale live := by
  unfold hotSolve
  rw [hlive]
  rfl

theorem calls_warmRun (d : Data T) (stale : List Float) (live : Live T B) :
    (s.warmRun d stale live).calls =
      changeCalls d ++ if (live.update d.changes).isOk then [.run] else [] := by
  unfold warmRun
  rw [Traced.calls_bind, calls_forM_change]
  cases live.update d.changes <;> simp [changeCalls, Except.isOk, Except.toBool]

theorem calls_warmRun_ne_nil (d : Data T) (stale : List Float) (live : Live T B) :
    (s.warmRun d stale live).calls ≠ [] := by
  simp [calls_warmRun, changeCalls, Data.changes]

theorem calls_of_update (d : Data T) (stale : List Float) {live left : Live T B}
    (h : live.update d.changes = .ok left) :
    (s.warmRun d stale live).calls = changeCalls d ++ [.run] := by
  rw [calls_warmRun, h]
  rfl

theorem value_warmRun (d : Data T) (stale : List Float) (live : Live T B) :
    (s.warmRun d stale live).value =
      match live.update d.changes with
      | .error refusal => (.failed stale (.updateRefused (T.updateRefusalText refusal)), live)
      | .ok left => (left.run s.config.acceptMaxIterations stale).value := by
  unfold warmRun
  rw [Traced.value_bind]
  cases live.update d.changes <;> rfl

/-- Changes that are refused make no success. -/
theorem exists_update_of_succeeded {d : Data T} {stale : List Float} {live : Live T B}
    (hok : (s.warmRun d stale live).value.1.failure = none) :
    ∃ left, live.update d.changes = .ok left := by
  rw [value_warmRun] at hok
  cases hupdate : live.update d.changes with
  | error refusal =>
    rw [hupdate] at hok
    cases hok
  | ok left => exact ⟨left, rfl⟩

theorem hotSolve_of_none (d : Data T) (stale : List Float) (h : s.workspace = none) :
    s.hotSolve d stale = pure none := by
  simp only [hotSolve, h]

theorem calls_coldSolve (d : Data T) (stale : List Float) :
    (s.coldSolve d stale).calls =
      .setup d s.config.settings ::
        match B.setup d s.config.settings with
        | .ok _ => [.run]
        | .error _ => [] := by
  unfold coldSolve
  cases B.setup d s.config.settings <;> simp

theorem workspace_coldSolve (d : Data T) (stale : List Float) {live : Live T B}
    (h : (s.coldSolve d stale).value.2 = some live) :
    live.data = d ∧ live.settings = s.config.settings ∧
      ∃ memory, B.setup d s.config.settings = .ok memory := by
  unfold coldSolve at h
  cases hs : B.setup d s.config.settings with
  | error refusal => simp [hs] at h
  | ok memory =>
    simp only [hs, Traced.value_bind, Traced.value_pure, Option.some.injEq] at h
    subst h
    exact ⟨by simp, by simp, memory, rfl⟩

/-! ## All paths -/

def store (d : Data T) : State T B := { s with objective := d.objective, constraints := d.constraints }

/-- Whether the stored positions are those of the problem before. -/
def fits (d : Data T) : Bool :=
  d.objective.samePattern s.objective && d.constraints.samePattern s.constraints

/-- Whether a solve of a problem with variables and no crossed bounds makes a warm attempt. -/
def triesWarm (p : CheckedProblem) : Prop :=
  s.record.warm.plan p.dims s.config.forceInitialize = .warm ∧ s.fits (dataOf T p) = true ∧
    s.workspace ≠ none

def after (p : CheckedProblem) (attempts : List StartState) (attempt : Attempt)
    (workspace : Option (Live T B)) : State T B :=
  { s with record := s.record.after p.dims attempts attempt, workspace }

/-- The point that stands in for a missing one. -/
def stale (p : CheckedProblem) : List Float := s.record.staleSolution p.dims.var

end State

/-- The native calls of a solve, and the state that it leaves. -/
inductive Solved (s : State T B) (p : CheckedProblem) : List (Call T) → State T B → Prop where
  | withoutVariables (hvar : p.dims.var = 0) :
    Solved s p [] (s.after p [.cold] (.withoutVariables p) none)
  | crossed {row : Nat} (hvar : p.dims.var ≠ 0) (hrow : T.crossedRow? p = some row) :
    Solved s p []
      ((s.store (dataOf T p)).after p [.cold] (.failed (s.stale p) (.crossedBounds row)) none)
  | cold (hvar : p.dims.var ≠ 0) (hrow : T.crossedRow? p = none) (hcold : ¬ s.triesWarm p) :
    Solved s p (s.coldSolve (dataOf T p) (s.stale p)).calls
      ((s.store (dataOf T p)).after p [.cold] (s.coldSolve (dataOf T p) (s.stale p)).value.1
        (s.coldSolve (dataOf T p) (s.stale p)).value.2)
  | warm {live : Live T B} (hvar : p.dims.var ≠ 0) (hrow : T.crossedRow? p = none)
    (hwarm : s.triesWarm p) (hlive : s.workspace = some live)
    (hok : (s.warmRun (dataOf T p) (s.stale p) live).value.1.failure = none) :
    Solved s p (s.warmRun (dataOf T p) (s.stale p) live).calls
      ((s.store (dataOf T p)).after p [.warm] (s.warmRun (dataOf T p) (s.stale p) live).value.1
        (some (s.warmRun (dataOf T p) (s.stale p) live).value.2))
  | retried {live : Live T B} {reason : Reason} (hvar : p.dims.var ≠ 0)
    (hrow : T.crossedRow? p = none) (hwarm : s.triesWarm p) (hlive : s.workspace = some live)
    (hfailed : (s.warmRun (dataOf T p) (s.stale p) live).value.1.failure = some reason) :
    Solved s p
      ((s.warmRun (dataOf T p) (s.stale p) live).calls ++
        (s.coldSolve (dataOf T p) (s.stale p)).calls)
      ((s.store (dataOf T p)).after p [.warm, .cold]
        (s.coldSolve (dataOf T p) (s.stale p)).value.1
        (s.coldSolve (dataOf T p) (s.stale p)).value.2)

namespace State

variable (s : State T B) (p : CheckedProblem)

def warmAttempt (dims : Dims) (d : Data T) (samePattern : Bool) (stale : List Float) :
    Traced (Call T) (Option (Attempt × Option (Live T B))) :=
  match s.record.warm.plan dims s.config.forceInitialize with
  | .cold => pure none
  | .warm =>
    if samePattern then s.hotSolve d stale
    else do
      Traced.log (.patternChanged T.kind)
      pure none

theorem attempt_eq (dims : Dims) (d : Data T) (samePattern : Bool) :
    s.attempt dims d samePattern =
      s.warmAttempt dims d samePattern (s.record.staleSolution dims.var) >>= fun hot =>
        hotThenCold T.kind s.workspace hot fun _ =>
          s.coldSolve d (s.record.staleSolution dims.var) := by
  unfold attempt warmAttempt
  cases s.record.warm.plan dims s.config.forceInitialize with
  | cold => rfl
  | warm => cases samePattern <;> rfl

theorem warmAttempt_of_not_triesWarm (h : ¬ s.triesWarm p) :
    (s.warmAttempt p.dims (dataOf T p) (s.fits (dataOf T p)) (s.stale p)).calls = [] ∧
      (s.warmAttempt p.dims (dataOf T p) (s.fits (dataOf T p)) (s.stale p)).value = none := by
  unfold warmAttempt
  cases hplan : s.record.warm.plan p.dims s.config.forceInitialize with
  | cold => exact ⟨rfl, rfl⟩
  | warm =>
    cases hfits : s.fits (dataOf T p) with
    | false => exact ⟨rfl, rfl⟩
    | true =>
      cases hlive : s.workspace with
      | none => simp [s.hotSolve_of_none _ _ hlive]
      | some live => exact absurd ⟨hplan, hfits, by simp [hlive]⟩ h

theorem warmAttempt_of_triesWarm (h : s.triesWarm p) :
    s.warmAttempt p.dims (dataOf T p) (s.fits (dataOf T p)) (s.stale p) =
      s.hotSolve (dataOf T p) (s.stale p) := by
  unfold warmAttempt
  rw [h.1, h.2.1]
  rfl

def made : Traced (Call T) (List StartState × Attempt × Option (Live T B)) :=
  s.attempt p.dims (dataOf T p) (s.fits (dataOf T p))

theorem made_of_not_triesWarm (h : ¬ s.triesWarm p) :
    (s.made p).calls = (s.coldSolve (dataOf T p) (s.stale p)).calls ∧
      (s.made p).value = ([.cold], (s.coldSolve (dataOf T p) (s.stale p)).value) := by
  obtain ⟨hcalls, hvalue⟩ := s.warmAttempt_of_not_triesWarm p h
  rw [stale] at hcalls hvalue
  simp only [made, attempt_eq, Traced.calls_bind, Traced.value_bind, hcalls, hvalue,
    hotThenCold_none]
  simp [stale]

theorem made_of_warm (h : s.triesWarm p) {live : Live T B} (hlive : s.workspace = some live)
    (hok : (s.warmRun (dataOf T p) (s.stale p) live).value.1.failure = none) :
    (s.made p).calls = (s.warmRun (dataOf T p) (s.stale p) live).calls ∧
      (s.made p).value = ([.warm], (s.warmRun (dataOf T p) (s.stale p) live).value.1,
        some (s.warmRun (dataOf T p) (s.stale p) live).value.2) := by
  have hwarm := s.warmAttempt_of_triesWarm p h
  rw [stale] at hwarm hok ⊢
  simp only [made, attempt_eq, hwarm, Traced.calls_bind, Traced.value_bind,
    s.hotSolve_of_some _ _ hlive, Traced.calls_map, Traced.value_map, hotThenCold_succeeded _ _ _ hok]
  simp

theorem made_of_retried (h : s.triesWarm p) {live : Live T B} {reason : Reason}
    (hlive : s.workspace = some live)
    (hfailed : (s.warmRun (dataOf T p) (s.stale p) live).value.1.failure = some reason) :
    (s.made p).calls = (s.warmRun (dataOf T p) (s.stale p) live).calls ++
        (s.coldSolve (dataOf T p) (s.stale p)).calls ∧
      (s.made p).value =
        ([.warm, .cold], (s.coldSolve (dataOf T p) (s.stale p)).value) := by
  have hwarm := s.warmAttempt_of_triesWarm p h
  rw [stale] at hwarm hfailed ⊢
  simp only [made, attempt_eq, hwarm, Traced.calls_bind, Traced.value_bind,
    s.hotSolve_of_some _ _ hlive, Traced.calls_map, Traced.value_map, hotThenCold_failed _ _ _ hfailed]
  simp

theorem solve_of_not_crossed (hvar : p.dims.var ≠ 0) (hrow : T.crossedRow? p = none) :
    (s.solve p).calls = (s.made p).calls ∧
      (s.solve p).value = (s.store (dataOf T p)).after p (s.made p).value.1 (s.made p).value.2.1
        (s.made p).value.2.2 := by
  simp only [solve, if_neg hvar, hrow, Traced.calls_bind, Traced.calls_log, Traced.value_bind,
    Record.calls_finish, Record.value_finish, Traced.calls_pure, Traced.value_pure,
    List.append_nil, List.nil_append]
  exact ⟨rfl, rfl⟩

theorem solve_of_crossed (hvar : p.dims.var ≠ 0) {row : Nat} (hrow : T.crossedRow? p = some row) :
    (s.solve p).calls = [] ∧ (s.solve p).value =
      (s.store (dataOf T p)).after p [.cold] (.failed (s.stale p) (.crossedBounds row)) none := by
  simp only [solve, settle, if_neg hvar, hrow, Traced.calls_bind, Traced.calls_log,
    Traced.value_bind, Record.calls_finish, Record.value_finish, Traced.calls_pure,
    Traced.value_pure, List.append_nil]
  exact ⟨trivial, rfl⟩

theorem solve_of_withoutVariables (hvar : p.dims.var = 0) :
    (s.solve p).calls = [] ∧
      (s.solve p).value = s.after p [.cold] (.withoutVariables p) none := by
  simp only [solve, settle, if_pos hvar, Traced.calls_bind, Traced.value_bind,
    Record.calls_finish, Record.value_finish, Traced.calls_pure, Traced.value_pure,
    List.append_nil]
  exact ⟨trivial, rfl⟩

/-! ## The log -/

def conversionLine (T : Technique) (p : CheckedProblem) : Log.Line :=
  .sparseConversion T.kind (dataOf T p).objective.nnz (dataOf T p).constraints.nnz

theorem logs_solve_of_not_crossed (hvar : p.dims.var ≠ 0) (hrow : T.crossedRow? p = none) :
    (s.solve p).logs = conversionLine T p :: (s.made p).logs ++
      (s.made p).value.2.1.failure.toList.map (.solveFailed T.kind p.dims) := by
  simp only [solve, if_neg hvar, hrow, Traced.logs_bind, Traced.logs_log, Record.logs_finish,
    Traced.logs_pure, List.append_nil]
  rfl

theorem logs_solve_of_crossed (hvar : p.dims.var ≠ 0) {row : Nat}
    (hrow : T.crossedRow? p = some row) :
    (s.solve p).logs =
      [conversionLine T p, .solveFailed T.kind p.dims (.crossedBounds row)] := by
  simp only [solve, settle, if_neg hvar, hrow, Traced.logs_bind, Traced.logs_log,
    Record.logs_finish, Traced.logs_pure, List.append_nil]
  rfl

theorem logs_solve_of_withoutVariables (hvar : p.dims.var = 0) :
    (s.solve p).logs =
      (Attempt.withoutVariables p).failure.toList.map (.solveFailed T.kind p.dims) := by
  simp only [solve, settle, if_pos hvar, Traced.logs_bind, Record.logs_finish, Traced.logs_pure,
    List.append_nil]

/-! ## The path of a solve -/

theorem solve_solved : Solved s p (s.solve p).calls (s.solve p).value := by
  by_cases hvar : p.dims.var = 0
  · obtain ⟨hcalls, hvalue⟩ := s.solve_of_withoutVariables p hvar
    rw [hcalls, hvalue]
    exact .withoutVariables hvar
  cases hrow : T.crossedRow? p with
  | some row =>
    obtain ⟨hcalls, hvalue⟩ := s.solve_of_crossed p hvar hrow
    rw [hcalls, hvalue]
    exact .crossed hvar hrow
  | none =>
    obtain ⟨hcalls, hvalue⟩ := s.solve_of_not_crossed p hvar hrow
    rw [hcalls, hvalue]
    by_cases hwarm : s.triesWarm p
    · cases hlive : s.workspace with
      | none => exact absurd hlive hwarm.2.2
      | some live =>
        cases hfailure : (s.warmRun (dataOf T p) (s.stale p) live).value.1.failure with
        | none =>
          obtain ⟨hcalls, hvalue⟩ := s.made_of_warm p hwarm hlive hfailure
          rw [hcalls, hvalue]
          exact .warm hvar hrow hwarm hlive hfailure
        | some reason =>
          obtain ⟨hcalls, hvalue⟩ := s.made_of_retried p hwarm hlive hfailure
          rw [hcalls, hvalue]
          exact .retried hvar hrow hwarm hlive hfailure
    · obtain ⟨hcalls, hvalue⟩ := s.made_of_not_triesWarm p hwarm
      rw [hcalls, hvalue]
      exact .cold hvar hrow hwarm

end State

end QuadOpt.Workspace
