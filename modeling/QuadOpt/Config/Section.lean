import QuadOpt.Config

/-!
# A configuration as sections

A section for each backend, with its settings under their names. Every way of writing a configuration
goes through this.
-/

namespace QuadOpt.Config

inductive Scalar where
  | bool (b : Bool)
  | nat (n : Nat)
  | float (x : Float)
  deriving DecidableEq, Repr

structure Section where
  name : String
  settings : List (String × Scalar)
  deriving DecidableEq, Repr

def quadProgSection (c : FactoredConfig) : Section where
  name := "quadprog"
  settings := [("force_initialize", .bool c.forceInitialize)]

/-- The switches that every method with a workspace has. -/
def switches {S : Type} (c : WorkspaceConfig S) : List (String × Scalar) :=
  [("force_initialize", .bool c.forceInitialize),
    ("accept_max_iterations", .bool c.acceptMaxIterations)]

def osqpSection (c : WorkspaceConfig SplittingSettings) : Section where
  name := "osqp"
  settings := switches c ++
    [("max_iter", .nat c.settings.maxIter.toNat),
      ("eps_abs", .float c.settings.epsAbs),
      ("eps_rel", .float c.settings.epsRel),
      ("polish", .bool c.settings.polish),
      ("verbose", .bool c.settings.verbose)]

def clarabelSection (c : WorkspaceConfig InteriorPointSettings) : Section where
  name := "clarabel"
  settings := switches c ++
    [("max_iter", .nat c.settings.maxIter.toNat),
      ("tol_gap_abs", .float c.settings.tolGapAbs),
      ("tol_gap_rel", .float c.settings.tolGapRel),
      ("verbose", .bool c.settings.verbose)]

def totsuSection (c : ConicSettings) : Section where
  name := "totsu"
  settings := [("max_iter", .nat c.maxIter.toNat), ("eps_acc", .float c.epsAcc)]

/-- One section for each backend, in order of preference. -/
def sections (c : Config) : List Section :=
  [quadProgSection c.quadProg, osqpSection c.osqp, clarabelSection c.clarabel, totsuSection c.totsu]

end QuadOpt.Config
