/-!
# Backend kinds

A kind names a method for solving quadratic programs. Two of the names are no method: one for a
solver that was never given a backend, one for whichever backend comes first.
-/

namespace QuadOpt

/-- The kinds, in the order in which they sort. -/
inductive Kind where
  /-- A solver that was never given a backend. -/
  | uninitialized
  /-- The first backend that is available. -/
  | any
  /-- Dual active-set method on a factored objective. -/
  | quadProg
  /-- Operator splitting method. -/
  | osqp
  /-- Interior point method. -/
  | clarabel
  /-- First-order primal-dual conic method. -/
  | totsu
  deriving DecidableEq, Repr, Ord

namespace Kind

def all : List Kind := [uninitialized, any, quadProg, osqp, clarabel, totsu]

/-- The kinds that are methods, in order of preference. -/
def concrete : List Kind := [quadProg, osqp, clarabel, totsu]

def isConcrete (k : Kind) : Bool := k ∈ concrete

def name : Kind → String
  | uninitialized => "Uninitialized"
  | any => "Any"
  | quadProg => "QuadProg"
  | osqp => "OSQP"
  | clarabel => "Clarabel"
  | totsu => "Totsu"

/-- The name as a word with one capital, as diagnostics write it. -/
def diagnosticName : Kind → String
  | osqp => "Osqp"
  | k => k.name

def ofName? (s : String) : Option Kind := all.find? (·.name == s)

theorem ofName?_name (k : Kind) : ofName? k.name = some k := by cases k <;> decide

/-- Sorted by kind, equal kinds side by side. -/
def sort (ks : List Kind) : List Kind := ks.mergeSort fun a b => (compare a b).isLE

end Kind

end QuadOpt
