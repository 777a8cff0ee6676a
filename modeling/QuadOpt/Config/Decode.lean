import QuadOpt.Config
import QuadOpt.Document.Decode

/-!
# Configurations from documents

Unknown keys are passed over and missing ones keep their defaults. How a document spells the name of
a backend is left to the format.
-/

namespace QuadOpt.Config

open Document

def boolSetter {σ : Type} (name : String) (put : Bool → σ → σ) : Setter σ :=
  ⟨name, fun t r => (decodeBool t).map (put · r)⟩

def word32Setter {σ : Type} (name : String) (put : UInt32 → σ → σ) : Setter σ :=
  ⟨name, fun t r => (decodeWord32 t).map (put · r)⟩

def floatSetter {σ : Type} (name : String) (put : Float → σ → σ) : Setter σ :=
  ⟨name, fun t r => (decodeFloat t).map (put · r)⟩

def quadProgSetters : List (Setter FactoredConfig) :=
  [boolSetter "force_initialize" fun v c => { c with forceInitialize := v }]

def osqpSetters : List (Setter (WorkspaceConfig SplittingSettings)) :=
  [boolSetter "force_initialize" fun v c => { c with forceInitialize := v },
    boolSetter "accept_max_iterations" fun v c => { c with acceptMaxIterations := v },
    word32Setter "max_iter" fun v c => { c with settings := { c.settings with maxIter := v } },
    floatSetter "eps_abs" fun v c => { c with settings := { c.settings with epsAbs := v } },
    floatSetter "eps_rel" fun v c => { c with settings := { c.settings with epsRel := v } },
    boolSetter "polish" fun v c => { c with settings := { c.settings with polish := v } },
    boolSetter "verbose" fun v c => { c with settings := { c.settings with verbose := v } }]

def clarabelSetters : List (Setter (WorkspaceConfig InteriorPointSettings)) :=
  [boolSetter "force_initialize" fun v c => { c with forceInitialize := v },
    boolSetter "accept_max_iterations" fun v c => { c with acceptMaxIterations := v },
    word32Setter "max_iter" fun v c => { c with settings := { c.settings with maxIter := v } },
    floatSetter "tol_gap_abs" fun v c => { c with settings := { c.settings with tolGapAbs := v } },
    floatSetter "tol_gap_rel" fun v c => { c with settings := { c.settings with tolGapRel := v } },
    boolSetter "verbose" fun v c => { c with settings := { c.settings with verbose := v } }]

def totsuSetters : List (Setter ConicSettings) :=
  [⟨"max_iter", fun t c => (decodeWord64 t).map fun v => { c with maxIter := v }⟩,
    floatSetter "eps_acc" fun v c => { c with epsAcc := v }]

def quadProgTitle : String := "QuadProgConfig"
def osqpTitle : String := "OsqpConfig"
def clarabelTitle : String := "ClarabelConfig"
def totsuTitle : String := "TotsuConfig"
def title : String := "SolverConfig"

/-- The top level: the backend, then the sections, each decoded from its own defaults. -/
def setters (d : Dialect) (kind : Tree → Decoded Kind) : List (Setter Config) :=
  [⟨"backend", fun t c => (kind t).map fun v => { c with backend := v }⟩,
    ⟨"quadprog", fun t c =>
      (decodeRecord d quadProgTitle quadProgSetters defaultQuadProg t).map
        fun v => { c with quadProg := v }⟩,
    ⟨"osqp", fun t c =>
      (decodeRecord d osqpTitle osqpSetters defaultOsqp t).map fun v => { c with osqp := v }⟩,
    ⟨"clarabel", fun t c =>
      (decodeRecord d clarabelTitle clarabelSetters defaultClarabel t).map
        fun v => { c with clarabel := v }⟩,
    ⟨"totsu", fun t c =>
      (decodeRecord d totsuTitle totsuSetters defaultTotsu t).map fun v => { c with totsu := v }⟩]

def ofTree (d : Dialect) (kind : Tree → Decoded Kind) (t : Tree) : Decoded Config :=
  decodeRecord d title (setters d kind) default t

def kindNamed (name : String) : Decoded Kind := decodeName Kind.all Kind.name name

end QuadOpt.Config
