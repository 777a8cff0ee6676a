import QuadOpt.Proofs.Matrix.Upper
import QuadOpt.Proofs.Solver.Observed

/-!
# The part of the objective that is not read

Three of the adapters take the quadratic term from its upper triangle. What stands below the
diagonal makes no difference to them, in a solve or in all that come after it.
-/

namespace QuadOpt

/-! ## The same but for the lower part -/

/-- Another objective matrix with the same upper triangle. -/
inductive Problem.SameUpper (p : Problem) : Problem → Prop where
  | objMat {m : Matrix Float} (h : p.objMat.SameUpper m) : SameUpper p { p with objMat := m }

inductive Step.SameUpper : Step → Step → Prop where
  | solve {p q : Problem} (h : p.SameUpper q) : Step.SameUpper (.solve p) (.solve q)
  | force (on : Bool) : Step.SameUpper (.force on) (.force on)

theorem Problem.SameUpper.mismatch?_eq {p q : Problem} (h : p.SameUpper q) :
    p.mismatch? = q.mismatch? := by
  have hat (f : Field) : p.mismatchAt? f = q.mismatchAt? f := by
    obtain ⟨h⟩ := h
    cases f with
    | objMat =>
      unfold mismatchAt? block
      rw [Block.shape, Block.shape, h.nrows, h.ncols]
    | _ => rfl
  rw [mismatch?, mismatch?, funext hat]

theorem Problem.SameUpper.exists_eq {p q : CheckedProblem} (h : p.problem.SameUpper q.problem) :
    ∃ m hm, p.problem.objMat.SameUpper m ∧ q = ⟨{ p.problem with objMat := m }, hm⟩ := by
  obtain ⟨q, hq⟩ := q
  obtain ⟨h⟩ := h
  exact ⟨_, hq, h, rfl⟩

/-! ## One solve -/

namespace Workspace

/-- The rows come from the other coefficients. -/
structure Technique.IgnoresObjective (T : Technique) : Prop where
  form : ∀ (p : CheckedProblem) (m : Matrix Float) hm,
    T.form p = T.form ⟨{ p.problem with objMat := m }, hm⟩
  crossedRow? : ∀ (p : CheckedProblem) (m : Matrix Float) hm,
    T.crossedRow? p = T.crossedRow? ⟨{ p.problem with objMat := m }, hm⟩

theorem splitting_ignoresObjective : splitting.IgnoresObjective :=
  ⟨fun _ _ _ => rfl, fun _ _ _ => rfl⟩

theorem interiorPoint_ignoresObjective : interiorPoint.IgnoresObjective :=
  ⟨fun _ _ _ => rfl, fun _ _ _ => rfl⟩

variable {T : Technique} {B : Backend T} {p q : CheckedProblem}

theorem Technique.IgnoresObjective.dataOf_eq (hT : T.IgnoresObjective)
    (h : p.problem.SameUpper q.problem) : dataOf T p = dataOf T q := by
  obtain ⟨m, hm, hupper, rfl⟩ := h.exists_eq
  unfold dataOf
  rw [hT.form p m hm, Csc.ofMatrix_upper_eq hupper]

theorem State.solve_eq_of_sameUpper (hT : T.IgnoresObjective) (s : State T B)
    (h : p.problem.SameUpper q.problem) : s.solve p = s.solve q := by
  have hdata := hT.dataOf_eq h
  obtain ⟨m, hm, -, rfl⟩ := h.exists_eq
  unfold solve
  rw [hdata, hT.crossedRow? p m hm]
  rfl

end Workspace

theorem Conic.State.solve_eq_of_sameUpper (B : Conic.Backend) (s : Conic.State)
    {p q : CheckedProblem} (h : p.problem.SameUpper q.problem) : s.solve B p = s.solve B q := by
  obtain ⟨m, hm, hupper, rfl⟩ := h.exists_eq
  have hdata : dataOf p = dataOf ⟨{ p.problem with objMat := m }, hm⟩ := by
    unfold dataOf
    rw [hupper.packedUpper_eq]
    rfl
  unfold solve coldSolve
  rw [hdata]
  rfl

namespace Solver

variable {B : Backends} {s : Solver B}

theorem solveChecked_eq_of_sameUpper (hkind : s.kind ∈ [.osqp, .clarabel, .totsu])
    {p q : CheckedProblem} (h : p.problem.SameUpper q.problem) :
    s.solveChecked p = s.solveChecked q := by
  cases s with
  | quadProg s => simp [kind] at hkind
  | osqp s =>
    have hsolve := s.solve_eq_of_sameUpper Workspace.splitting_ignoresObjective h
    rw [solveChecked, solveChecked, hsolve]
  | clarabel s =>
    have hsolve := s.solve_eq_of_sameUpper Workspace.interiorPoint_ignoresObjective h
    rw [solveChecked, solveChecked, hsolve]
  | totsu s =>
    have hsolve := s.solve_eq_of_sameUpper B.conic h
    rw [solveChecked, solveChecked, hsolve]

theorem solve_eq_of_sameUpper (hkind : s.kind ∈ [.osqp, .clarabel, .totsu]) {p q : Problem}
    (h : p.SameUpper q) : s.solve p = s.solve q := by
  unfold solve
  cases hp : p.mismatch? with
  | some m =>
    have hq : q.mismatch? = some m := by rw [← h.mismatch?_eq, hp]
    rw [Problem.check_of_mismatch? hp, Problem.check_of_mismatch? hq]
  | none =>
    have hq : q.mismatch? = none := by rw [← h.mismatch?_eq, hp]
    rw [Problem.check_of_mismatch?_eq_none hp, Problem.check_of_mismatch?_eq_none hq]
    exact congrArg Except.ok (solveChecked_eq_of_sameUpper hkind h)

/-! ## Whole runs -/

theorem step_eq_of_sameUpper (hkind : s.kind ∈ [.osqp, .clarabel, .totsu]) {x y : Step}
    (h : x.SameUpper y) : (machine B).step s x = (machine B).step s y := by
  cases h with
  | solve h => rw [step_solve, step_solve, solve_eq_of_sameUpper hkind h]
  | force on => rfl

theorem observe_eq_of_sameUpper (hkind : s.kind ∈ [.osqp, .clarabel, .totsu]) {x y : Step}
    (h : x.SameUpper y) : s.observe x = s.observe y := by
  have hanswer : s.answer x = s.answer y := by
    cases h with
    | solve h => rw [answer, answer, solve_eq_of_sameUpper hkind h]
    | force on => rfl
  rw [observe, observe, hanswer, step_eq_of_sameUpper hkind h]

/-- Two runs whose objectives differ below the diagonal only cannot be told apart. -/
theorem lower_part_unread (B : Backends) (s : Solver B)
    (hkind : s.kind ∈ [.osqp, .clarabel, .totsu]) (xs ys : List Step)
    (h : List.Forall₂ Step.SameUpper xs ys) :
    (s.observations xs).map (·.2) = (s.observations ys).map (·.2) ∧
      (machine B).run s xs = (machine B).run s ys := by
  induction h generalizing s with
  | nil => exact ⟨rfl, rfl⟩
  | @cons x y xs ys hxy _ ih =>
    have hstep := step_eq_of_sameUpper hkind hxy
    have hleft : ((machine B).step s y).value.kind = s.kind := kind_run s [y]
    obtain ⟨hseen, hrun⟩ := ih ((machine B).step s y).value (hleft ▸ hkind)
    constructor
    · rw [observations, observations, List.map_cons, List.map_cons, hstep, hseen,
        observe_eq_of_sameUpper hkind hxy]
    · rw [Machine.run, Machine.run, hstep]
      exact Traced.bind_congr_value hrun

def skewed (below : Float) : Problem :=
  { Problem.new ⟨2, 0, 0⟩ with
    objMat := .ofLists 2 [[1, 0], [below, 1]], objVec := [-1, -1], xMin := [0, 0], xMax := [2, 2] }

theorem sameUpper_skewed (a b : Float) : (skewed a).SameUpper (skewed b) := by
  apply Problem.SameUpper.objMat
  refine ⟨rfl, rfl, fun r c hr hc _ _ hle => ?_⟩
  have hr2 : r < 2 := hr
  have hc2 : c < 2 := hc
  obtain rfl | rfl : r = 0 ∨ r = 1 := by omega
  · obtain rfl | rfl : c = 0 ∨ c = 1 := by omega
    · rfl
    · rfl
  · obtain rfl : c = 1 := by omega
    rfl

theorem lower_part_unread_skewed :
    let s : Solver .interval := .osqp (.new hotOsqp.osqp)
    let xs : List Step := [.solve (skewed 0), .solve (skewed 3)]
    let ys : List Step := [.solve (skewed (0 / 0)), .solve (skewed 0)]
    (s.observations xs).map (·.2) = (s.observations ys).map (·.2) ∧
      (machine .interval).run s xs = (machine .interval).run s ys ∧
      ((machine .interval).run s ys).value.lastAttempts = [.warm] ∧
      ((machine .interval).run s ys).value.solution = [1, 1] := by
  intro s xs ys
  obtain ⟨hseen, hrun⟩ := lower_part_unread .interval s (by decide) xs ys
    (.cons (.solve (sameUpper_skewed _ _)) (.cons (.solve (sameUpper_skewed _ _)) .nil))
  exact ⟨hseen, hrun, by decide +kernel, by decide +kernel⟩

end Solver

end QuadOpt
