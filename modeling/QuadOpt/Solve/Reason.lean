/-!
# Why a solve failed
-/

namespace QuadOpt

/-- The cause of a failed solve. A native method's own verdict is carried as the method words it. -/
inductive Reason where
  /-- There are no variables and this equality asks for a nonzero value. -/
  | equalityRow (row : Nat)
  /-- There are no variables and this inequality has a negative bound. -/
  | inequalityRow (row : Nat)
  | notPositiveDefinite
  | crossedBounds (row : Nat)
  | setupRefused (refusal : String)
  | updateRefused (refusal : String)
  | native (status : String)
  deriving DecidableEq, Repr

def Reason.text : Reason → String
  | equalityRow row => "equality row " ++ toString row ++ " is infeasible"
  | inequalityRow row => "inequality row " ++ toString row ++ " is infeasible"
  | notPositiveDefinite => "objective matrix is not positive definite"
  | crossedBounds row => "lower bound exceeds upper bound in constraint row " ++ toString row
  | setupRefused refusal => "setup failed: " ++ refusal
  | updateRefused refusal => "data update failed: " ++ refusal
  | native status => status

end QuadOpt
