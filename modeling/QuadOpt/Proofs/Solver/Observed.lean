import QuadOpt.Proofs.Problem.Mismatch
import QuadOpt.Proofs.Solver.Start

/-!
# What a caller sees

A call shows what it returns, what the adapter says of itself afterwards, and what was logged and
called natively on the way. A refused problem shows its mismatch and nothing else, then and later: a
run looks the same without its refused calls.
-/

namespace QuadOpt

structure Observation where
  /-- What the call returns, if it is a solve. -/
  answer : Option (Except Problem.Mismatch (List Float))
  failed : Bool
  startState : StartState
  lastStart : Option StartState
  attempts : List StartState
  events : List (Event NativeCall)

def Observation.refused (o : Observation) : Bool :=
  match o.answer with
  | some (.error _) => true
  | _ => false

namespace Solver

variable {B : Backends}

def answer (s : Solver B) : Step → Option (Except Problem.Mismatch (List Float))
  | .solve p => some ((s.solve p).map (·.value.solution))
  | .force _ => none

def observe (s : Solver B) (x : Step) : Observation :=
  let after := (machine B).step s x
  { answer := s.answer x
    failed := after.value.failed
    startState := after.value.startState
    lastStart := after.value.lastStart
    attempts := after.value.lastAttempts
    events := after.events }

/-- The calls of a run, each with what is seen of it. -/
def observations (s : Solver B) : List Step → List (Step × Observation)
  | [] => []
  | x :: xs => (x, s.observe x) :: observations ((machine B).step s x).value xs

/-! ## Which problems are refused -/

theorem solve_eq_error_iff (s : Solver B) (p : Problem) (m : Problem.Mismatch) :
    s.solve p = .error m ↔ p.check = .error m := by
  unfold solve
  cases p.check <;> simp [Except.map]

/-- Only the problem decides whether it is refused. It is if one of its coefficients does not fit,
and the mismatch tells of the first. -/
structure RefusesExactly (s : Solver B) (p : Problem) : Prop where
  refuses_iff : (∃ m, s.solve p = .error m) ↔ ¬ p.Consistent
  first_iff : ∀ m, s.solve p = .error m ↔ p.FirstMismatch m
  reported : ∀ m, s.solve p = .error m → m.Reported (Error.dimensionMismatch m).message
  validates : ∀ m, s.solve p = .error m ↔ p.validate = .error m

theorem refusesExactly (s : Solver B) (p : Problem) : s.RefusesExactly p := by
  have hfirst (m : Problem.Mismatch) : s.solve p = .error m ↔ p.FirstMismatch m := by
    rw [solve_eq_error_iff, Problem.check_eq_error_iff]
  constructor
  · simp only [solve_eq_error_iff]
    exact p.exists_check_eq_error_iff
  · exact hfirst
  · intro m h
    exact ((hfirst m).1 h).reported
  · intro m
    rw [solve_eq_error_iff, Problem.validate_eq_error_iff]

/-! ## Runs without their refused calls -/

/-- The calls of a run that were not refused, each with what is seen of it. -/
def answered (s : Solver B) (xs : List Step) : List (Step × Observation) :=
  (s.observations xs).filter (!·.2.refused)

theorem not_refused_observe (s : Solver B) (x : Step) : (!(s.observe x).refused) = x.accepted := by
  cases x with
  | solve p =>
    cases hm : p.mismatch? with
    | some m =>
      have hsolve : s.solve p = .error m := by
        rw [solve_eq_error_iff, Problem.check_of_mismatch? hm]
      simp [observe, answer, hsolve, Observation.refused, Except.map, Step.accepted, hm]
    | none =>
      obtain ⟨q, hq⟩ : ∃ q, p.check = .ok q := ⟨_, p.check_of_mismatch?_eq_none hm⟩
      simp [observe, answer, solve, hq, Observation.refused, Except.map, Step.accepted, hm]
  | force on => rfl

theorem map_fst_observations (s : Solver B) (xs : List Step) :
    (s.observations xs).map (·.1) = xs := by
  induction xs generalizing s with
  | nil => rfl
  | cons x xs ih => rw [observations, List.map_cons, ih]

/-- A refused call is not seen by the calls after it. -/
theorem answered_eq (s : Solver B) (xs : List Step) :
    s.answered xs = s.observations (xs.filter Step.accepted) := by
  unfold answered
  induction xs generalizing s with
  | nil => rfl
  | cons x xs ih =>
    simp only [observations, List.filter_cons, not_refused_observe]
    cases haccepted : x.accepted with
    | true => rw [if_pos rfl, if_pos rfl, observations, ih]
    | false =>
      rw [if_neg Bool.false_ne_true, if_neg Bool.false_ne_true, ih,
        Machine.step_of_not_accepted _ haccepted, Traced.value_pure]

/-- A solver refuses what does not fit, says what that is, and goes on as if nothing was asked. -/
theorem refusals_exact_and_erasable (B : Backends) (s : Solver B) :
    (∀ p, s.RefusesExactly p) ∧
      ∀ xs, s.observations ((s.answered xs).map (·.1)) = s.answered xs ∧
        (machine B).run s ((s.answered xs).map (·.1)) = (machine B).run s xs := by
  refine ⟨s.refusesExactly, fun xs => ?_⟩
  have hkept : (s.answered xs).map (·.1) = xs.filter Step.accepted := by
    rw [answered_eq, map_fst_observations]
  rw [hkept]
  exact ⟨(s.answered_eq xs).symm, (machine B).run_filter_accepted s xs⟩

theorem refusals_exact_and_erasable_pauses :
    let s : Solver .interval := .osqp (.new hotOsqp.osqp)
    let short : Problem := { (capped 2).problem with objVec := [] }
    (∃ m, s.solve short = .error m ∧ m.Reported (Error.dimensionMismatch m).message ∧
      (Error.dimensionMismatch m).message =
        "Dimension mismatch: obj_vec must have length 1, got 0") ∧
      (s.observations pauses).map (·.2.refused) = [false, true, false, false] ∧
      (machine .interval).run s ((s.answered pauses).map (·.1)) =
        (machine .interval).run s pauses := by
  intro s short
  obtain ⟨hrefuses, herase⟩ := refusals_exact_and_erasable .interval s
  have hsolve : s.solve short = .error ⟨.objVec, .vector 1, .vector 0⟩ := rfl
  exact ⟨⟨_, hsolve, (hrefuses short).reported _ hsolve, by decide +kernel⟩, by decide +kernel,
    (herase pauses).2⟩

end Solver

end QuadOpt
