import QuadOpt.Dims

/-!
# Cold and warm starts

A solve may start from what the one before left behind, if that one succeeded and had the same
dimensions. `WarmStart` remembers no more than this.
-/

namespace QuadOpt

/-- How a solve starts: from nothing, or from the solve before. -/
inductive StartState where
  | cold
  | warm
  deriving DecidableEq, Repr

namespace StartState

def all : List StartState := [cold, warm]

def name : StartState → String
  | cold => "Cold"
  | warm => "Warm"

def listText (starts : List StartState) : String :=
  "[" ++ ", ".intercalate (starts.map name) ++ "]"

end StartState

/-- The dimensions of the solve before, if there was one, and whether it succeeded. -/
structure WarmStart where
  cachedDims : Option Dims := none
  lastSucceeded : Bool := false
  deriving DecidableEq, Repr

namespace WarmStart

def new : WarmStart := {}

def state (w : WarmStart) : StartState :=
  if w.cachedDims.isSome && w.lastSucceeded then .warm else .cold

/-- The start for a problem of the given dimensions. -/
def plan (w : WarmStart) (dims : Dims) (forceInitialize : Bool) : StartState :=
  if forceInitialize || w.cachedDims ≠ some dims then .cold else w.state

/-- Remembers an outcome and forgets the one before. -/
def record (_ : WarmStart) (dims : Dims) (succeeded : Bool) : WarmStart := ⟨some dims, succeeded⟩

def reset (_ : WarmStart) : WarmStart := new

theorem plan_eq_warm_iff (w : WarmStart) (d : Dims) (force : Bool) :
    w.plan d force = .warm ↔ force = false ∧ w.cachedDims = some d ∧ w.lastSucceeded = true := by
  unfold plan state
  cases force <;> by_cases h : w.cachedDims = some d <;> cases hl : w.lastSucceeded <;>
    simp_all

end WarmStart

end QuadOpt
