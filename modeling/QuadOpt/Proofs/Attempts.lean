import QuadOpt.Proofs.Outcome

/-!
# What attempts write to the log

A solve makes a warm attempt, or says why it makes none although one was planned. If there is no warm
attempt, or it fails, a cold one follows. `Tried` lists these cases with what each leaves in the log.
-/

namespace QuadOpt

/-! ## Lines -/

/-- The line of a native run that has come to its end. -/
def Log.Line.reportsRun : Log.Line → Bool
  | .finished .. => true
  | _ => false

/-- Why a planned warm attempt is not made. -/
def changeLine : Kind → Log.Line
  | .quadProg => .objectiveChanged .quadProg
  | kind => .patternChanged kind

theorem changeLine_of_ne {kind : Kind} (h : kind ≠ .quadProg) :
    changeLine kind = .patternChanged kind := by
  cases kind with
  | quadProg => exact absurd rfl h
  | _ => rfl

section

variable (kind : Kind)

@[simp] theorem level_changeLine : (changeLine kind).level = .debug := by cases kind <;> rfl

@[simp] theorem reportsRun_changeLine : (changeLine kind).reportsRun = false := by
  cases kind <;> rfl

@[simp] theorem changeLine_ne_hotStartFailed (k : Kind) (reason : Reason) :
    changeLine kind ≠ .hotStartFailed k reason := by
  cases kind <;> simp [changeLine]

end

/-- The log of one attempt. If the interior point method runs, it runs once and reports it. -/
structure AttemptLog (kind : Kind) (ran : Prop) (lines : List Log.Line) : Prop where
  finished : ∀ line ∈ lines, ∃ iterations status, line = .finished kind iterations status
  once : kind = .clarabel → ran → lines.length = 1

/-- What the log says before a failure of the solve is reported. Whether the method takes the changes
of a warm attempt is `taken`. -/
structure Told (kind : Kind) (plan : StartState) (reaches taken : Prop) (attempts : List StartState)
    (lines : List Log.Line) : Prop where
  failedStart : (∃ k reason, .hotStartFailed k reason ∈ lines) ↔ attempts = [.warm, .cold]
  change : changeLine kind ∈ lines ↔ attempts = [.cold] ∧ plan = .warm ∧ reaches
  runs : kind = .clarabel → taken → reaches → lines.countP (·.reportsRun) = attempts.length

theorem attemptLog_nil {kind : Kind} {ran : Prop} (h : kind = .clarabel → ¬ ran) :
    AttemptLog kind ran [] where
  finished := by simp
  once hkind hran := absurd hran (h hkind)

namespace AttemptLog

variable {kind : Kind} {ran : Prop} {lines : List Log.Line} (h : AttemptLog kind ran lines)

include h

theorem level_ne_warn : ∀ line ∈ lines, line.level ≠ .warn := by
  intro line hline
  obtain ⟨iterations, status, rfl⟩ := h.finished line hline
  simp [Log.Line.level]

theorem hotStartFailed_not_mem (k : Kind) (reason : Reason) : .hotStartFailed k reason ∉ lines := by
  intro hline
  obtain ⟨iterations, status, hstatus⟩ := h.finished _ hline
  cases hstatus

theorem changeLine_not_mem : changeLine kind ∉ lines := by
  intro hline
  obtain ⟨iterations, status, hstatus⟩ := h.finished _ hline
  have hruns := reportsRun_changeLine kind
  rw [hstatus] at hruns
  cases hruns

theorem countP_reportsRun (hkind : kind = .clarabel) (hran : ran) :
    lines.countP (·.reportsRun) = 1 := by
  rw [← h.once hkind hran, List.countP_eq_length]
  intro line hline
  obtain ⟨iterations, status, rfl⟩ := h.finished line hline
  rfl

end AttemptLog

/-! ## Attempts -/

section

variable {C σ : Type} {kind : Kind} {warm : Traced C (Option (Attempt × σ))}
  {cold : Traced C (Attempt × σ)}

/-- What is tried, the attempt that counts, and what the log says of it. -/
inductive Tried (kind : Kind) (warm : Traced C (Option (Attempt × σ)))
    (cold : Traced C (Attempt × σ)) : List StartState → Attempt → List Log.Line → Prop where
  | cold (hwarm : warm.value = none) :
    Tried kind warm cold [.cold] cold.value.1 (warm.logs ++ cold.logs)
  | warm {made : Attempt × σ} (hwarm : warm.value = some made) (hok : made.1.failure = none) :
    Tried kind warm cold [.warm] made.1 warm.logs
  | retried {made : Attempt × σ} {reason : Reason} (hwarm : warm.value = some made)
    (hfailed : made.1.failure = some reason) :
    Tried kind warm cold [.warm, .cold] cold.value.1
      (warm.logs ++ .hotStartFailed kind reason :: cold.logs)

theorem tried (kind : Kind) (kept : σ) (warm : Traced C (Option (Attempt × σ)))
    (cold : Traced C (Attempt × σ)) :
    let all := warm >>= fun hot => hotThenCold kind kept hot fun _ => cold
    Tried kind warm cold all.value.1 all.value.2.1 all.logs := by
  intro all
  cases hwarm : warm.value with
  | none =>
    have hlogs : all.logs = warm.logs ++ cold.logs := by simp [all, hwarm, hotThenCold_none]
    have hvalue : all.value = ([.cold], cold.value) := by simp [all, hwarm, hotThenCold_none]
    rw [hlogs, hvalue]
    exact .cold hwarm
  | some made =>
    cases hfailure : made.1.failure with
    | none =>
      have hlogs : all.logs = warm.logs := by
        simp [all, hwarm, hotThenCold_succeeded _ _ _ hfailure]
      have hvalue : all.value = ([.warm], made) := by
        simp [all, hwarm, hotThenCold_succeeded _ _ _ hfailure]
      rw [hlogs, hvalue]
      exact .warm hwarm hfailure
    | some reason =>
      have hlogs : all.logs = warm.logs ++ .hotStartFailed kind reason :: cold.logs := by
        simp [all, hwarm, hotThenCold_failed _ _ _ hfailure]
      have hvalue : all.value = ([.warm, .cold], cold.value) := by
        simp [all, hwarm, hotThenCold_failed _ _ _ hfailure]
      rw [hlogs, hvalue]
      exact .retried hwarm hfailure

/-- The log of a warm attempt, or of its absence. -/
structure WarmLog (kind : Kind) (plan : StartState) (taken : Prop)
    (warm : Traced C (Option (Attempt × σ))) : Prop where
  made : warm.value ≠ none → AttemptLog kind taken warm.logs
  unmade : warm.value = none → warm.logs = if plan = .warm then [changeLine kind] else []

namespace Tried

variable {plan : StartState} {taken : Prop} {attempts : List StartState} {a : Attempt}
  {lines : List Log.Line}
  (h : Tried kind warm cold attempts a lines)

include h

/-- A warm attempt that failed does not count. -/
theorem failure_eq (hfailed : a.failure ≠ none) : a.failure = cold.value.1.failure := by
  cases h with
  | cold => rfl
  | warm hwarm hok => exact absurd hok hfailed
  | retried => rfl

variable (hwarm : WarmLog kind plan taken warm) (hcold : AttemptLog kind True cold.logs)

include hwarm hcold

theorem told {reaches : Prop} (hreaches : reaches) :
    Told kind plan reaches taken attempts lines := by
  cases h with
  | cold hnone =>
    -- Before a lone cold attempt stands the reason for it, if a warm one was planned, or nothing.
    rw [hwarm.unmade hnone]
    constructor
    · simp [hcold.hotStartFailed_not_mem, eq_comm]
    · simp [hcold.changeLine_not_mem, hreaches]
    · intro hkind _ _
      split <;> simp [hcold.countP_reportsRun hkind trivial]
  | warm hsome hok =>
    have hlog := hwarm.made (by simp [hsome])
    constructor
    · simp [hlog.hotStartFailed_not_mem]
    · simp [hlog.changeLine_not_mem]
    · exact fun hkind htaken _ => hlog.countP_reportsRun hkind htaken
  | @retried made reason hsome hfailed =>
    have hlog := hwarm.made (by simp [hsome])
    have hline : (Log.Line.hotStartFailed kind reason).reportsRun = false := rfl
    constructor
    · exact iff_of_true ⟨kind, reason, by simp⟩ rfl
    · simp [hlog.changeLine_not_mem, hcold.changeLine_not_mem]
    · intro hkind htaken _
      simp [hlog.countP_reportsRun hkind htaken, hcold.countP_reportsRun hkind trivial, hline]

theorem level_ne_warn : ∀ line ∈ lines, line.level ≠ .warn := by
  cases h with
  | cold hnone =>
    rw [hwarm.unmade hnone, List.forall_mem_append]
    refine ⟨?_, hcold.level_ne_warn⟩
    split <;> simp
  | warm hsome hok => exact (hwarm.made (by simp [hsome])).level_ne_warn
  | retried hsome hfailed =>
    rw [List.forall_mem_append, List.forall_mem_cons]
    exact ⟨(hwarm.made (by simp [hsome])).level_ne_warn, by simp [Log.Line.level],
      hcold.level_ne_warn⟩

end Tried

end

end QuadOpt
