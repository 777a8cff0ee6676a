import QuadOpt.Kind

/-!
# Configuration

Which backend to use and how each one is set up. Every setting has a default.
-/

namespace QuadOpt

/-- Settings of the method on a factored objective. -/
structure FactoredConfig where
  /-- Factor the objective anew on every solve. -/
  forceInitialize : Bool
  deriving DecidableEq, Repr

/-- Settings of a method that keeps a workspace, whose own settings are `S`. -/
structure WorkspaceConfig (S : Type) where
  /-- Set up a fresh workspace on every solve. -/
  forceInitialize : Bool
  /-- A solve that used up its iterations counts as a success. -/
  acceptMaxIterations : Bool
  settings : S
  deriving DecidableEq, Repr

structure SplittingSettings where
  maxIter : UInt32
  epsAbs : Float
  epsRel : Float
  polish : Bool
  verbose : Bool
  deriving DecidableEq, Repr

structure InteriorPointSettings where
  maxIter : UInt32
  tolGapAbs : Float
  tolGapRel : Float
  verbose : Bool
  deriving DecidableEq, Repr

/-- The conic method's own settings. It never starts warm, and a solve that used up its iterations
has always failed. -/
structure ConicSettings where
  maxIter : UInt64
  /-- Tolerance on the residuals and the duality gap. -/
  epsAcc : Float
  deriving DecidableEq, Repr

/-- The choice of a backend, and a section for each one. -/
structure Config where
  backend : Kind
  quadProg : FactoredConfig
  osqp : WorkspaceConfig SplittingSettings
  clarabel : WorkspaceConfig InteriorPointSettings
  totsu : ConicSettings
  deriving DecidableEq, Repr

namespace Config

def defaultQuadProg : FactoredConfig := ⟨false⟩

/-- Only this section starts cold unless told otherwise. -/
def defaultOsqp : WorkspaceConfig SplittingSettings where
  forceInitialize := true
  acceptMaxIterations := false
  settings := { maxIter := 10000, epsAbs := 1e-6, epsRel := 1e-6, polish := true, verbose := false }

def defaultClarabel : WorkspaceConfig InteriorPointSettings where
  forceInitialize := false
  acceptMaxIterations := false
  settings := { maxIter := 200, tolGapAbs := 1e-8, tolGapRel := 1e-8, verbose := false }

def defaultTotsu : ConicSettings := { maxIter := 100000, epsAcc := 1e-6 }

/-- What holds for every setting that is not given. -/
def default : Config where
  backend := .any
  quadProg := defaultQuadProg
  osqp := defaultOsqp
  clarabel := defaultClarabel
  totsu := defaultTotsu

instance : Inhabited Config := ⟨default⟩

end Config

end QuadOpt
