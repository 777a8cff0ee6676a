import QuadOpt.Solve.Attempt

/-!
# What every adapter remembers

The warm-start state, the outcome of the latest solve, the starts it tried, and its point.
-/

namespace QuadOpt

structure Record where
  warm : WarmStart := .new
  failed : Bool := false
  lastStart : Option StartState := none
  attempts : List StartState := []
  solution : List Float := []
  deriving DecidableEq, Repr

namespace Record

/-- The latest point where it still has the right length, and zeros otherwise. -/
def staleSolution (r : Record) (n : Nat) : List Float :=
  if r.solution.length = n then r.solution else List.replicate n 0

@[simp] theorem length_staleSolution (r : Record) (n : Nat) : (r.staleSolution n).length = n := by
  unfold staleSolution
  split <;> simp_all

def after (r : Record) (dims : Dims) (attempts : List StartState) (attempt : Attempt) : Record where
  warm := r.warm.record dims attempt.succeeded
  failed := !attempt.succeeded
  lastStart := attempts.getLast?
  attempts := attempts
  solution := attempt.x

/-- Records the outcome of a solve; a failure is reported. -/
def finish {C : Type} (r : Record) (kind : Kind) (dims : Dims) (attempts : List StartState)
    (attempt : Attempt) : Traced C Record := do
  if let some reason := attempt.failure then
    Traced.log (.solveFailed kind dims reason)
  return r.after dims attempts attempt

@[simp] theorem value_finish {C : Type} (r : Record) (kind : Kind) (dims : Dims)
    (attempts : List StartState) (attempt : Attempt) :
    (r.finish kind dims attempts attempt : Traced C Record).value =
      r.after dims attempts attempt := by
  unfold finish
  split <;> rfl

@[simp] theorem calls_finish {C : Type} (r : Record) (kind : Kind) (dims : Dims)
    (attempts : List StartState) (attempt : Attempt) :
    (r.finish kind dims attempts attempt : Traced C Record).calls = [] := by
  unfold finish
  split <;> rfl

theorem events_finish {C : Type} (r : Record) (kind : Kind) (dims : Dims)
    (attempts : List StartState) (attempt : Attempt) :
    (r.finish kind dims attempts attempt : Traced C Record).events =
      attempt.failure.toList.map fun reason => .log (.solveFailed kind dims reason) := by
  unfold finish
  cases attempt.failure <;> rfl

theorem logs_finish {C : Type} (r : Record) (kind : Kind) (dims : Dims)
    (attempts : List StartState) (attempt : Attempt) :
    (r.finish kind dims attempts attempt : Traced C Record).logs =
      attempt.failure.toList.map (.solveFailed kind dims) := by
  unfold finish
  cases attempt.failure <;> rfl

theorem mapCalls_finish {C D : Type} (f : C → D) (r : Record) (kind : Kind) (dims : Dims)
    (attempts : List StartState) (attempt : Attempt) :
    (r.finish kind dims attempts attempt).mapCalls f = r.finish kind dims attempts attempt := by
  unfold finish
  split <;> rfl

end Record

end QuadOpt
