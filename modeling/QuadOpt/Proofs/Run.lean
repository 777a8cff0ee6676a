import QuadOpt.Solver

/-!
# Runs

Whoever holds an adapter solves problems, whatever their shapes, and switches forced cold starts on
and off. A run is any finite sequence of such steps; its trace holds all that happened on the way.
Runs are defined once, for any machine that solves checked problems. The adapters that keep something
between solves are machines, and so is the solver that chooses between all four.
-/

namespace QuadOpt

/-! ## Machines and their runs -/

/-- Something that solves checked problems and can be made to start cold. -/
structure Machine (C σ : Type) where
  solve : σ → CheckedProblem → Traced C σ
  setForce : σ → Bool → σ

/-- What a caller does. -/
inductive Step where
  | solve (p : Problem)
  | force (on : Bool)

namespace Machine

variable {C D σ τ : Type} (M : Machine C σ)

/-- One step. A problem whose coefficients do not fit its dimensions changes nothing. -/
def step (s : σ) : Step → Traced C σ
  | .solve p =>
    match p.check with
    | .ok p => M.solve s p
    | .error _ => pure s
  | .force on => pure (M.setForce s on)

theorem step_of_ok {p : Problem} {q : CheckedProblem} (h : p.check = .ok q) (s : σ) :
    M.step s (.solve p) = M.solve s q := by
  simp only [step, h]

theorem step_of_error {p : Problem} {m : Problem.Mismatch} (h : p.check = .error m) (s : σ) :
    M.step s (.solve p) = pure s := by
  simp only [step, h]

@[simp] theorem step_force (s : σ) (on : Bool) :
    M.step s (.force on) = pure (M.setForce s on) := rfl

def run (s : σ) : List Step → Traced C σ
  | [] => pure s
  | x :: xs => M.step s x >>= fun t => run t xs

/-- What holds at first, after each solve and after each switch holds after every run. The calls
made so far may be spoken of. -/
theorem run_invariant {I : List C → σ → Prop}
    (hsolve : ∀ cs s p, I cs s → I (cs ++ (M.solve s p).calls) (M.solve s p).value)
    (hforce : ∀ cs s on, I cs s → I cs (M.setForce s on))
    {s : σ} (h : I [] s) (xs : List Step) : I (M.run s xs).calls (M.run s xs).value := by
  have hstep : ∀ cs s x, I cs s → I (cs ++ (M.step s x).calls) (M.step s x).value := by
    intro cs s x h
    cases x with
    | solve p =>
      cases hp : p.check with
      | ok q =>
        rw [M.step_of_ok hp]
        exact hsolve cs s q h
      | error m =>
        rw [M.step_of_error hp]
        simpa using h
    | force on => simpa using hforce cs s on h
  suffices hrun : ∀ cs s, I cs s → I (cs ++ (M.run s xs).calls) (M.run s xs).value from
    hrun [] s h
  intro cs s h
  induction xs generalizing cs s with
  | nil => simpa [run] using h
  | cons x xs ih => simpa [run] using ih _ _ (hstep cs s x h)

/-- A map between machines that goes along with solving and switching goes along with runs. -/
theorem run_map (N : Machine D τ) (f : σ → τ) (g : C → D)
    (hsolve : ∀ s p, N.solve (f s) p = f <$> (M.solve s p).mapCalls g)
    (hforce : ∀ s on, N.setForce (f s) on = f (M.setForce s on)) (s : σ) (xs : List Step) :
    N.run (f s) xs = f <$> (M.run s xs).mapCalls g := by
  have hstep : ∀ s x, N.step (f s) x = f <$> (M.step s x).mapCalls g := by
    intro s x
    cases x with
    | solve p =>
      cases hp : p.check with
      | ok q =>
        rw [M.step_of_ok hp, N.step_of_ok hp]
        exact hsolve s q
      | error m =>
        rw [M.step_of_error hp, N.step_of_error hp]
        rfl
    | force on => exact congrArg pure (hforce s on)
  induction xs generalizing s with
  | nil => rfl
  | cons x xs ih =>
    simp only [run, hstep, Traced.mapCalls_bind, map_eq_pure_bind, bind_assoc, pure_bind, ih]

end Machine

/-! ## The adapters as machines -/

def Factored.machine (B : Factored.Backend) : Machine Factored.Call Factored.State where
  solve s p := s.solve B p
  setForce := Factored.State.setForce

def Workspace.machine {T : Workspace.Technique} (B : Workspace.Backend T) :
    Machine (Workspace.Call T) (Workspace.State T B) where
  solve := Workspace.State.solve
  setForce := Workspace.State.setForce

namespace Solver

variable (B : Backends)

def machine : Machine NativeCall (Solver B) where
  solve := solveChecked
  setForce s on := s.setForce on

/-- A step of a solver is what `solve` does with the problem, if it does not refuse it. -/
theorem step_solve (s : Solver B) (p : Problem) :
    (machine B).step s (.solve p) = (s.solve p).toOption.getD (pure s) := by
  cases hp : p.check with
  | ok q =>
    rw [Machine.step_of_ok _ hp, solve, hp]
    rfl
  | error m =>
    rw [Machine.step_of_error _ hp, solve, hp]
    rfl

/-- A run of a solver is one of its adapter. -/
theorem run_clarabel (s : Workspace.State interiorPoint B.interiorPoint) (xs : List Step) :
    (machine B).run (clarabel s) xs =
      clarabel <$> ((Workspace.machine B.interiorPoint).run s xs).mapCalls NativeCall.interiorPoint :=
  Machine.run_map _ _ clarabel NativeCall.interiorPoint (fun _ _ => rfl) (fun _ _ => rfl) s xs

end Solver

end QuadOpt
