import QuadOpt.Problem.Checked
import QuadOpt.Solve.Traced

/-!
# Attempts

One solve makes up to two attempts. A warm one that succeeds counts. A warm one that fails is
reported and followed by a cold one, which counts whatever it gives.
-/

namespace QuadOpt

/-- What one attempt gave: a point, and the reason if it failed. -/
structure Attempt where
  x : List Float
  failure : Option Reason
  deriving DecidableEq, Repr

namespace Attempt

def solved (x : List Float) : Attempt := ⟨x, none⟩

def failed (x : List Float) (reason : Reason) : Attempt := ⟨x, some reason⟩

def succeeded (a : Attempt) : Bool := a.failure.isNone

/-- The outcome where there are no variables: the empty point is feasible unless an equality asks
for a nonzero value or an inequality has a negative bound. -/
def withoutVariables (p : CheckedProblem) : Attempt :=
  match p.problem.eqVec.findIdx? (· != 0) with
  | some row => failed [] (.equalityRow row)
  | none =>
    match p.problem.ineqVec.findIdx? (· < 0) with
    | some row => failed [] (.inequalityRow row)
    | none => solved []

end Attempt

/-- Keeps a warm attempt that succeeded, and otherwise starts cold. Both carry what the method keeps
for later; the cold attempt goes on from what the warm one left. -/
def hotThenCold {C σ : Type} (kind : Kind) (kept : σ) (hot : Option (Attempt × σ))
    (cold : σ → Traced C (Attempt × σ)) : Traced C (List StartState × Attempt × σ) :=
  match hot with
  | none => do return ([.cold], ← cold kept)
  | some (attempt, left) =>
    match attempt.failure with
    | none => return ([.warm], attempt, left)
    | some reason => do
      Traced.log (.hotStartFailed kind reason)
      return ([.warm, .cold], ← cold left)

section

variable {C σ : Type} (kind : Kind) (kept : σ) (cold : σ → Traced C (Attempt × σ))

theorem hotThenCold_none :
    hotThenCold kind kept none cold = return ([.cold], ← cold kept) := by
  simp only [hotThenCold]

theorem hotThenCold_succeeded {attempt : Attempt} (h : attempt.failure = none) (left : σ) :
    hotThenCold kind kept (some (attempt, left)) cold = pure ([.warm], attempt, left) := by
  simp only [hotThenCold, h]

theorem hotThenCold_failed {attempt : Attempt} {reason : Reason}
    (h : attempt.failure = some reason) (left : σ) :
    hotThenCold kind kept (some (attempt, left)) cold = do
      Traced.log (.hotStartFailed kind reason)
      return ([.warm, .cold], ← cold left) := by
  simp only [hotThenCold, h]

end

end QuadOpt
