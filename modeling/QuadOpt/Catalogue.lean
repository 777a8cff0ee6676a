import QuadOpt.Error
import QuadOpt.Solver

/-!
# Which backends there are

A build contains some of the backends. Allocation hands out a fresh solver of a kind that the build
contains; asked for any kind it takes the first in order of preference.
-/

namespace QuadOpt

structure Catalogue where
  contains : Kind → Bool

namespace Catalogue

def base : Catalogue := ⟨(· != .osqp)⟩

def full : Catalogue := ⟨fun _ => true⟩

def standard : Catalogue := ⟨fun k => k == .quadProg || k == .clarabel⟩

/-- The kinds that can be allocated, in order of preference. -/
def available (c : Catalogue) : List Kind := Kind.concrete.filter c.contains

def isAvailable (c : Catalogue) (k : Kind) : Bool :=
  match k with
  | .uninitialized => false
  | .any => !c.available.isEmpty
  | k => c.available.contains k

def resolveAny (c : Catalogue) : Except Error Kind :=
  match c.available with
  | k :: _ => .ok k
  | [] => .error .noBackendAvailable

def resolve (c : Catalogue) : Kind → Except Error Kind
  | .any => c.resolveAny
  | k => .ok k

/-- A fresh solver of a kind that is a method, with its section of a configuration. -/
def fresh? (B : Backends) (config : Config) : Kind → Option (Solver B)
  | .quadProg => some (.quadProg (.new config.quadProg))
  | .osqp => some (.osqp (.new config.osqp))
  | .clarabel => some (.clarabel (.new config.clarabel))
  | .totsu => some (.totsu (.new config.totsu))
  | .uninitialized | .any => none

/-- A fresh solver of exactly the given kind. -/
def construct (c : Catalogue) (B : Backends) (kind : Kind) (config : Config) :
    Except Error (Solver B) :=
  match fresh? B config kind with
  | some solver => if c.isAvailable kind then .ok solver else .error (.backendUnavailable kind)
  | none => .error (.backendUnavailable kind)

/-- A fresh solver of the kind that is meant. -/
def allocate (c : Catalogue) (B : Backends) (kind : Kind) (config : Config) :
    Except Error (Solver B) := do
  c.construct B (← c.resolve kind) config

/-- A fresh solver of the kind that the configuration asks for. -/
def allocateFrom (c : Catalogue) (B : Backends) (config : Config) : Except Error (Solver B) :=
  c.allocate B config.backend config

end Catalogue

end QuadOpt
