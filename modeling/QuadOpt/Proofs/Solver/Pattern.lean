import QuadOpt.Proofs.Form.Cones
import QuadOpt.Proofs.Matrix.Stacked
import QuadOpt.Proofs.Solver.Start

/-!
# Patterns handed over

The splitting method gets one stack of equalities, inequalities and unit rows. Its pattern is told by
the nonzero positions of the problem's own matrices, and so is whether a workspace can be used again.
The interior point method gets the rows that can bind, and no entry that is zero.
-/

namespace QuadOpt

namespace Matrix

theorem nonzeros_identity (n : Nat) : nonzeros (identity n : Matrix Float).toLists = n := by
  rw [nonzeros_of_single fun _ => countP_of_mem_identity, length_toLists, nrows_identity]

theorem nonzeros_zeros (r n : Nat) : nonzeros (zeros r n : Matrix Float).toLists = 0 := by
  have hzero : ((0 : Float) != 0) = false := by decide +kernel
  simp [nonzeros, zeros, ofFn, toLists, Vector.toList_ofFn, List.countP_replicate, hzero]

end Matrix

/-- Of rows with one nonzero entry each, as many entries stay as right-hand sides can bind. -/
theorem nonzeros_kept_of_single {rows : List (List Float)} {rhs : List Float}
    (hlength : rows.length = rhs.length) (h : ∀ row ∈ rows, row.countP (· != 0) = 1) :
    nonzeros (((rows.zip rhs).filter (OneSided.binds ·.2)).map (·.1)) =
      rhs.countP OneSided.binds := by
  have hsingle : ∀ row ∈ ((rows.zip rhs).filter (OneSided.binds ·.2)).map (·.1),
      row.countP (· != 0) = 1 := by
    intro row hrow
    obtain ⟨⟨row, v⟩, hmem, rfl⟩ := List.mem_map.1 hrow
    exact h row (List.of_mem_zip (List.mem_of_mem_filter hmem)).1
  have hrhs : (rows.zip rhs).map (·.2) = rhs := List.map_snd_zip hlength.ge
  rw [nonzeros_of_single hsingle, List.length_map, ← List.countP_eq_length_filter]
  conv_rhs => rw [← hrhs, List.countP_map]
  rfl

namespace CheckedProblem

/-! ## Stored entries -/

variable (p : CheckedProblem)

theorem nnz_splitting : (Workspace.dataOf splitting p).constraints.nnz =
    nonzeros p.problem.eqMat.toLists + nonzeros p.problem.ineqMat.toLists + p.dims.var := by
  show (Csc.ofMatrix .full p.stackedRangesWithBounds.mat).nnz = _
  rw [Csc.nnz_ofMatrix_full, stackedRangesWithBounds]
  simp [eqBlock, ineqBlock, unitBlock, Matrix.nonzeros_identity, Nat.add_assoc]

/-- The rows of the inequalities that can bind. -/
def keptInequalities : List (List Float) :=
  ((p.problem.ineqMat.toLists.zip p.problem.ineqVec).filter (OneSided.binds ·.2)).map (·.1)

/-- How many rows of the box can bind. -/
def keptBounds : Nat :=
  p.problem.xMax.countP OneSided.binds + p.problem.xMin.countP fun v => OneSided.binds (-v)

theorem pairs_oneSided : p.oneSided.pairs =
    p.problem.ineqMat.toLists.zip p.problem.ineqVec ++
      (p.unitBlock.1.toLists.zip p.problem.xMax ++
        p.negatedUnitBlock.1.toLists.zip (p.problem.xMin.map (-·))) := by
  have hineq : p.problem.ineqMat.toLists.length = p.problem.ineqVec.length := by
    rw [Matrix.length_toLists, p.ineqMat_shape.1, p.ineqVec_length]
  have hunit : p.unitBlock.1.toLists.length = p.problem.xMax.length := by
    simp [unitBlock, p.xMax_length]
  rw [OneSided.pairs, oneSided, Matrix.toLists_vstack_cons, Matrix.toLists_vstack_cons,
    Matrix.toLists_vstack_cons, Matrix.toLists_vstack_nil, List.append_nil, List.append_assoc,
    ← List.zip_append hunit, ← List.zip_append hineq]
  rfl

theorem toLists_boundedRows :
    p.boundedRows.mat.toLists = (p.oneSided.pairs.filter (OneSided.binds ·.2)).map (·.1) := by
  rw [← OneSided.pairs_prune p.even_oneSided]
  exact (OneSided.map_fst_pairs p.even_boundedRows).symm

theorem nonzeros_boundedRows :
    nonzeros p.boundedRows.mat.toLists = nonzeros p.keptInequalities + p.keptBounds := by
  have hupper : nonzeros (((p.unitBlock.1.toLists.zip p.problem.xMax).filter
      (OneSided.binds ·.2)).map (·.1)) = p.problem.xMax.countP OneSided.binds := by
    apply nonzeros_kept_of_single
    · simp [unitBlock, p.xMax_length]
    · exact fun _ => Matrix.countP_of_mem_identity
  have hlower : nonzeros (((p.negatedUnitBlock.1.toLists.zip (p.problem.xMin.map (-·))).filter
      (OneSided.binds ·.2)).map (·.1)) = p.problem.xMin.countP fun v => OneSided.binds (-v) := by
    rw [nonzeros_kept_of_single, List.countP_map]
    · rfl
    · simp [negatedUnitBlock, p.xMin_length]
    · exact fun _ => Matrix.countP_of_mem_negatedIdentity
  simp only [toLists_boundedRows, pairs_oneSided, List.filter_append, List.map_append,
    nonzeros_append, hupper, hlower]
  rfl

theorem nonzeros_coneForm : nonzeros p.coneForm.mat.toLists =
    nonzeros p.problem.eqMat.toLists + nonzeros p.boundedRows.mat.toLists := by
  by_cases h : conesOf p.dims.eq p.boundedRows.numRows = []
  · -- No row is left, and the one that stands in for them has nothing but zeros.
    obtain ⟨heq, hbounded⟩ := (conesOf_eq_nil_iff _ _).1 h
    have hnone : p.problem.eqMat.toLists = [] := by
      rw [← List.length_eq_zero_iff, Matrix.length_toLists, p.eqMat_shape.1, heq]
    have hnoneLeft : p.boundedRows.mat.toLists = [] := by
      rw [← List.length_eq_zero_iff, Matrix.length_toLists, p.even_boundedRows, hbounded]
    rw [p.coneForm_of_nil h, hnone, hnoneLeft, Matrix.nonzeros_zeros]
    rfl
  · rw [p.coneForm_of_ne_nil h]
    simp [eqBlock]

theorem nnz_interiorPoint : (Workspace.dataOf interiorPoint p).constraints.nnz =
    nonzeros p.problem.eqMat.toLists + nonzeros p.keptInequalities + p.keptBounds := by
  show (Csc.ofMatrix .full p.coneForm.mat).nnz = _
  rw [Csc.nnz_ofMatrix_full, nonzeros_coneForm, nonzeros_boundedRows, Nat.add_assoc]

/-! ## Equal patterns -/

/-- The matrices of both problems have their nonzero entries at the same positions, those of the
objectives in the upper triangle. -/
structure SameSupport (p q : CheckedProblem) : Prop where
  objective : Csc.SameSupport .upper p.problem.objMat q.problem.objMat
  equalities : Csc.SameSupport .full p.problem.eqMat q.problem.eqMat
  inequalities : Csc.SameSupport .full p.problem.ineqMat q.problem.ineqMat

variable {p} {q : CheckedProblem}

theorem SameSupport.symm (h : p.SameSupport q) : q.SameSupport p :=
  ⟨h.objective.symm, h.equalities.symm, h.inequalities.symm⟩

variable (hdims : p.dims = q.dims)

include hdims

theorem sameSupport_stackedRanges_iff :
    Csc.SameSupport .full p.stackedRangesWithBounds.mat q.stackedRangesWithBounds.mat ↔
      Csc.SameSupport .full p.problem.eqMat q.problem.eqMat ∧
        Csc.SameSupport .full p.problem.ineqMat q.problem.ineqMat := by
  have hbox : Matrix.vstack [p.unitBlock] = .vstack [q.unitBlock] :=
    congrArg (fun n => Matrix.vstack [⟨.identity n, rfl⟩]) (congrArg Dims.var hdims)
  rw [stackedRangesWithBounds, stackedRangesWithBounds, Csc.sameSupport_vstack_cons_iff,
    Csc.sameSupport_vstack_cons_iff, hbox, and_iff_left (Csc.sameSupport_refl _ _)]
  · rfl
  · exact (p.ineqMat_shape.1.trans (by rw [hdims])).trans q.ineqMat_shape.1.symm
  · exact (p.eqMat_shape.1.trans (by rw [hdims])).trans q.eqMat_shape.1.symm

theorem samePattern_objective_iff :
    (Workspace.dataOf splitting p).objective.samePattern (Workspace.dataOf splitting q).objective =
      true ↔ Csc.SameSupport .upper p.problem.objMat q.problem.objMat := by
  apply Csc.samePattern_iff_sameSupport
  · rw [p.objMat_shape.1, q.objMat_shape.1, hdims]
  · rw [p.objMat_shape.2, q.objMat_shape.2, hdims]

theorem samePattern_constraints_iff :
    (Workspace.dataOf splitting p).constraints.samePattern
      (Workspace.dataOf splitting q).constraints = true ↔
        Csc.SameSupport .full p.problem.eqMat q.problem.eqMat ∧
          Csc.SameSupport .full p.problem.ineqMat q.problem.ineqMat := by
  rw [← sameSupport_stackedRanges_iff hdims]
  have hrows : p.stackedRangesWithBounds.mat.nrows = q.stackedRangesWithBounds.mat.nrows := by
    rw [p.nrows_stackedRangesWithBounds, q.nrows_stackedRangesWithBounds, hdims]
  exact Csc.samePattern_iff_sameSupport hrows (congrArg Dims.var hdims)

theorem samePattern_iff_sameSupport :
    ((Workspace.dataOf splitting p).objective.samePattern
        (Workspace.dataOf splitting q).objective = true ∧
      (Workspace.dataOf splitting p).constraints.samePattern
        (Workspace.dataOf splitting q).constraints = true) ↔ p.SameSupport q := by
  rw [samePattern_objective_iff hdims, samePattern_constraints_iff hdims]
  exact ⟨fun ⟨hobjective, heq, hineq⟩ => ⟨hobjective, heq, hineq⟩,
    fun h => ⟨h.objective, h.equalities, h.inequalities⟩⟩

end CheckedProblem

namespace Workspace

/-! ## After a solve -/

variable {T : Technique} {B : Backend T} {s t : State T B} {p q : CheckedProblem}
  {cs : List (Call T)}

theorem Solved.buffers (h : Solved s p cs t) (hvar : p.dims.var ≠ 0) :
    t.objective = (dataOf T p).objective ∧ t.constraints = (dataOf T p).constraints := by
  cases h with
  | withoutVariables hvar' => exact absurd hvar' hvar
  | crossed => exact ⟨rfl, rfl⟩
  | cold => exact ⟨rfl, rfl⟩
  | warm => exact ⟨rfl, rfl⟩
  | retried => exact ⟨rfl, rfl⟩

theorem Solved.warm_eq (h : Solved s p cs t) : t.record.warm = ⟨some p.dims, !t.record.failed⟩ :=
  (h.outcome (Q := fun _ => True) (fun _ => trivial) (fun _ => trivial) (fun _ => trivial)
    fun _ _ => trivial).warm_eq

end Workspace

namespace CheckedProblem

open Workspace

/-- A solve of the problem, whatever came before it, leaves the buffers made from the problem. -/
def LeavesBuffers (T : Technique) (p : CheckedProblem) : Prop :=
  ∀ (B : Backend T) (s : State T B), (s.solve p).value.objective = (dataOf T p).objective ∧
    (s.solve p).value.constraints = (dataOf T p).constraints

/-- The latest solve succeeded, no cold start is forced, and no bounds are crossed. -/
structure MayResume {B : Backend splitting} (q : CheckedProblem) (t : State splitting B) : Prop where
  succeeded : t.record.failed = false
  unforced : t.config.forceInitialize = false
  uncrossed : splitting.crossedRow? q = none

theorem head?_attempts_of_mayResume {p q : CheckedProblem} {B : Backend splitting}
    {s t : State splitting B} {cs : List (Call splitting)} (h : Solved s p cs t)
    (hvar : p.dims.var ≠ 0) (hdims : p.dims = q.dims) (hnext : q.MayResume t) :
    (t.solve q).value.record.attempts.head? = some .warm ↔ p.SameSupport q := by
  have hplan : t.record.warm.plan q.dims t.config.forceInitialize = .warm := by
    rw [WarmStart.plan_eq_warm_iff, h.warm_eq, hnext.succeeded, hdims]
    exact ⟨hnext.unforced, rfl, rfl⟩
  rw [(t.solve_solved q).head?_attempts, (h.ready hvar hnext.succeeded).triesWarm_iff q,
    samePositions_iff, samePattern_iff_sameSupport hdims.symm]
  constructor
  · rintro ⟨-, -, -, hsame⟩
    exact hsame.symm
  · intro hsame
    exact ⟨hdims ▸ hvar, hnext.uncrossed, hplan, hsame.symm⟩

/-- For problems of the same dimensions the buffers of the splitting adapter have the same pattern
just if the problems' own matrices have the same support, and right after a success this decides
whether the workspace is used again. No zero of either sign is stored, and all other entries are. -/
theorem patterns_follow_supports (p q : CheckedProblem) (hdims : p.dims = q.dims) :
    (((dataOf splitting p).objective.samePattern (dataOf splitting q).objective = true ∧
      (dataOf splitting p).constraints.samePattern (dataOf splitting q).constraints = true) ↔
        p.SameSupport q) ∧
    (dataOf splitting p).constraints.nnz =
      nonzeros p.problem.eqMat.toLists + nonzeros p.problem.ineqMat.toLists + p.dims.var ∧
    (dataOf interiorPoint p).constraints.nnz =
      nonzeros p.problem.eqMat.toLists + nonzeros p.keptInequalities + p.keptBounds ∧
    (∀ v ∈ (dataOf interiorPoint p).constraints.nzval, (v != 0) = true) ∧
    (0 < p.dims.var → p.LeavesBuffers splitting ∧ p.LeavesBuffers interiorPoint ∧
      ∀ (B : Backend splitting) (s : State splitting B), q.MayResume (s.solve p).value →
        (((s.solve p).value.solve q).value.record.attempts.head? = some .warm ↔
          p.SameSupport q)) := by
  refine ⟨samePattern_iff_sameSupport hdims, p.nnz_splitting, p.nnz_interiorPoint, ?_,
    fun hvar => ⟨?_, ?_, fun B s hnext => ?_⟩⟩
  · exact fun v hv => Csc.ne_zero_of_mem_nzval hv
  · exact fun B s => (s.solve_solved p).buffers hvar.ne'
  · exact fun B s => (s.solve_solved p).buffers hvar.ne'
  · exact head?_attempts_of_mayResume (s.solve_solved p) hvar.ne' hdims hnext

/-- The optimum of a unit objective that no row holds back. -/
def descent : Backend splitting where
  Memory := Unit
  setup _ _ := .ok ()
  update _ _ _ _ := .ok ()
  run d _ _ := (⟨.solved, some (d.linear.map (-·)), 1⟩, ())

/-- One inequality and two bounds are infinite. -/
def unitScale : CheckedProblem where
  problem :=
    { Problem.new ⟨2, 1, 2⟩ with
      objMat := .identity 2, objVec := [-1, -1], eqMat := .ofLists 2 [[0, 1]], eqVec := [1]
      ineqMat := .ofLists 2 [[1, -0.0], [0, 3]], ineqVec := [1e20, 4]
      xMin := [-1 / 0, 0], xMax := [1 / 0, 5] }
  fits f := by cases f <;> rfl

/-- Other values, other signs of the zeros, and an entry below the diagonal of the objective. -/
def otherScale : CheckedProblem where
  problem :=
    { Problem.new ⟨2, 1, 2⟩ with
      objMat := .ofLists 2 [[2, -0.0], [7, 3]], eqMat := .ofLists 2 [[-0.0, 5]]
      ineqMat := .ofLists 2 [[4, 0], [-0.0, 0 / 0]] }
  fits f := by cases f <;> rfl

theorem patterns_follow_supports_otherScale :
    let s : State splitting descent := .new Solver.hotOsqp.osqp
    unitScale.dims = otherScale.dims ∧ unitScale.SameSupport otherScale ∧
      ((s.solve unitScale).value.solve otherScale).value.record.attempts.head? = some .warm ∧
      (dataOf splitting unitScale).constraints.nnz = 5 ∧
      (dataOf interiorPoint unitScale).constraints.nnz = 4 := by
  intro s
  have hdims : unitScale.dims = otherScale.dims := by decide
  obtain ⟨hpattern, hsplitting, hinterior, -, hsolve⟩ :=
    patterns_follow_supports unitScale otherScale hdims
  have hsame : unitScale.SameSupport otherScale :=
    hpattern.1 ⟨by decide +kernel, by decide +kernel⟩
  have hnext : otherScale.MayResume (s.solve unitScale).value :=
    ⟨by decide +kernel, by decide +kernel, by decide +kernel⟩
  have heq : nonzeros unitScale.problem.eqMat.toLists = 1 := by decide +kernel
  have hineq : nonzeros unitScale.problem.ineqMat.toLists = 2 := by decide +kernel
  have hkept : nonzeros unitScale.keptInequalities = 1 := by decide +kernel
  have hbounds : unitScale.keptBounds = 2 := by decide +kernel
  rw [heq, hineq] at hsplitting
  rw [heq, hkept, hbounds] at hinterior
  obtain ⟨-, -, hresume⟩ := hsolve (by decide)
  exact ⟨hdims, hsame, (hresume descent s hnext).2 hsame, hsplitting, hinterior⟩

end CheckedProblem

end QuadOpt
