import QuadOpt.Solve.Record

/-!
# What a solve writes into the record

Every adapter solves along one of three paths: cold, warm, or warm and, when that fails, cold. The
record says which, and holds the attempt that counts.
-/

namespace QuadOpt

theorem WarmStart.eq_of_plan_eq_warm {w : WarmStart} {d : Dims} {force : Bool}
    (h : w.plan d force = .warm) : force = false ∧ w.state = .warm := by
  obtain ⟨hforce, hdims, hok⟩ := (w.plan_eq_warm_iff d force).1 h
  exact ⟨hforce, by simp [state, hdims, hok]⟩

theorem Attempt.succeeded_eq_true_iff (a : Attempt) : a.succeeded = true ↔ a.failure = none :=
  Option.isNone_iff_eq_none

@[simp] theorem Attempt.x_withoutVariables (p : CheckedProblem) : (withoutVariables p).x = [] := by
  unfold withoutVariables
  split
  · rfl
  · split <;> rfl

namespace Record

@[simp] theorem staleSolution_zero (r : Record) : r.staleSolution 0 = [] :=
  List.eq_nil_of_length_eq_zero (r.length_staleSolution 0)

theorem failed_after (r : Record) (dims : Dims) (attempts : List StartState) (a : Attempt) :
    (r.after dims attempts a).failed = a.failure.isSome := by
  cases h : a.failure <;> simp [after, Attempt.succeeded, h]

/-- What a solve can make of the record `r` if it would start as `start`. The attempt that counts
meets `Q`. -/
inductive Outcome (r : Record) (start : StartState) (dims : Dims) (Q : Attempt → Prop) :
    Record → Prop where
  | cold {a : Attempt} (ha : Q a) : Outcome r start dims Q (r.after dims [.cold] a)
  | warm {a : Attempt} (ha : Q a) (hstart : start = .warm) (hok : a.failure = none) :
    Outcome r start dims Q (r.after dims [.warm] a)
  | retried {a : Attempt} (ha : Q a) (hstart : start = .warm) :
    Outcome r start dims Q (r.after dims [.warm, .cold] a)

namespace Outcome

variable {r t : Record} {start : StartState} {dims : Dims} {Q : Attempt → Prop}

theorem exists_after (h : r.Outcome start dims Q t) :
    ∃ attempts a, Q a ∧ t = r.after dims attempts a := by
  cases h with
  | cold ha => exact ⟨_, _, ha, rfl⟩
  | warm ha => exact ⟨_, _, ha, rfl⟩
  | retried ha => exact ⟨_, _, ha, rfl⟩

theorem mem_attempts (h : r.Outcome start dims Q t) :
    t.attempts ∈ [[.cold], [.warm], [.warm, .cold]] := by
  cases h <;> simp [after]

theorem lastStart_eq (h : r.Outcome start dims Q t) : t.lastStart = t.attempts.getLast? := by
  cases h <;> rfl

theorem warm_eq (h : r.Outcome start dims Q t) : t.warm = ⟨some dims, !t.failed⟩ := by
  obtain ⟨attempts, a, -, rfl⟩ := h.exists_after
  simp [after, WarmStart.record]

theorem failed_of_attempts (h : r.Outcome start dims Q t) (hwarm : t.attempts = [.warm]) :
    t.failed = false := by
  cases h with
  | cold => simp [after] at hwarm
  | warm ha hstart hok => simpa [after] using (Attempt.succeeded_eq_true_iff _).2 hok
  | retried => simp [after] at hwarm

theorem lastStart_of_failed (h : r.Outcome start dims Q t) (hfailed : t.failed = true) :
    t.lastStart = some .cold := by
  cases h with
  | cold => rfl
  | warm ha hstart hok => simp [after, (Attempt.succeeded_eq_true_iff _).2 hok] at hfailed
  | retried => rfl

theorem start_of_head? (h : r.Outcome start dims Q t) (hhead : t.attempts.head? = some .warm) :
    start = .warm := by
  cases h with
  | cold => simp [after] at hhead
  | warm ha hstart => exact hstart
  | retried ha hstart => exact hstart

theorem head?_attempts (h : r.Outcome start dims Q t) :
    t.attempts.head? = some .cold ↔ t.attempts.head? ≠ some .warm := by
  cases h <;> simp [after]

/-- The attempt that counts is seen in the record: its point, and whether it failed. -/
theorem exists_attempt (h : r.Outcome start dims Q t) :
    ∃ a, Q a ∧ t.solution = a.x ∧ (t.failed = true ↔ a.failure ≠ none) := by
  obtain ⟨attempts, a, ha, rfl⟩ := h.exists_after
  refine ⟨a, ha, rfl, ?_⟩
  simp [after, ← Attempt.succeeded_eq_true_iff]

end Outcome

end Record

end QuadOpt
