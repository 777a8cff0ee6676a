import QuadOpt.Form.Flat
import QuadOpt.Proofs.Form.Cones
import QuadOpt.Proofs.Form.Crossed
import QuadOpt.Proofs.Matrix.Flat
import QuadOpt.Proofs.Matrix.Guarded

/-!
# Reformulations with guards

The reformulations once more, with nothing known of the sizes of the coefficients: blocks are copied
into buffers, vectors are filled from as many elements as the dimensions announce, and rows are picked
by their places. Each step is guarded. For a checked problem no guard stops a step, the results are the
forms of the problem, and their sizes agree.
-/

namespace QuadOpt

namespace Guarded

def oneSided (p : Problem) : Except Violation OneSided := do
  let unit : Matrix Float := .identity p.dims.var
  let mat ← stack p.dims.var [p.ineqMat, unit, unit.map (-·)]
  let rhs ← collect (p.ineqVec.length + 2 * p.dims.var) (p.ineqVec ++ p.xMax ++ p.xMin.map (-·))
  return ⟨mat, rhs⟩

def prune (b : OneSided) : Except Violation OneSided := do
  let kept ← placesWhere OneSided.binds b.rhs (List.range b.numRows)
  if kept.length = b.numRows then return b
  else return ⟨⟨b.mat.ncols, ← select b.mat.rows kept⟩, ← select b.rhs kept⟩

def stackedRanges (p : Problem) : Except Violation Ranges := do
  let rows := p.dims.eq + p.dims.ineq
  let mat ← stack p.dims.var [p.eqMat, p.ineqMat]
  let lower ← collect rows (p.eqVec ++ List.replicate p.dims.ineq negativeInfinity)
  let upper ← collect rows (p.eqVec ++ p.ineqVec)
  return ⟨mat, lower, upper⟩

def stackedRangesWithBounds (p : Problem) : Except Violation Ranges := do
  let rows := p.dims.eq + p.dims.ineq + p.dims.var
  let mat ← stack p.dims.var [p.eqMat, p.ineqMat, .identity p.dims.var]
  let lower ← collect rows (p.eqVec ++ List.replicate p.dims.ineq negativeInfinity ++ p.xMin)
  let upper ← collect rows (p.eqVec ++ p.ineqVec ++ p.xMax)
  return ⟨mat, lower, upper⟩

def flatRows (p : Problem) : Except Violation FlatRows := do
  let folded ← oneSided p
  let mat ← stack p.dims.var [p.eqMat, folded.mat]
  return ⟨mat.rowMajor, p.eqVec ++ folded.rhs, p.dims.eq⟩

def coneForm (p : Problem) : Except Violation ConeForm := do
  let bounded ← prune (← oneSided p)
  let cones := CheckedProblem.conesOf p.dims.eq bounded.numRows
  if cones.isEmpty then return ⟨.zeros 1 p.dims.var, [1], [.nonnegative 1]⟩
  else
    let mat ← stack p.dims.var [p.eqMat, bounded.mat]
    return ⟨mat, p.eqVec ++ bounded.rhs, cones⟩

/-- Picks the rows that can bind, also where these are all rows. -/
def selectBinding (b : OneSided) : Except Violation OneSided := do
  let kept ← placesWhere OneSided.binds b.rhs (List.range b.numRows)
  return ⟨⟨b.mat.ncols, ← select b.mat.rows kept⟩, ← select b.rhs kept⟩

theorem placesWhere_binds (b : OneSided) :
    placesWhere OneSided.binds b.rhs (List.range b.numRows) =
      .ok (passing OneSided.binds 0 b.rhs) := by
  rw [List.range_eq_range']
  exact placesWhere_eq_ok OneSided.binds [] b.rhs

theorem select_rows {b : OneSided} (h : b.Even) :
    select b.mat.rows (passing OneSided.binds 0 b.rhs) = .ok (b.boundRows.map (·.1)) := by
  have hselect := select_passing OneSided.binds [] (b.mat.rows.zip b.rhs)
  rw [OneSided.map_fst_rows h, OneSided.map_snd_rows h] at hselect
  exact hselect

theorem select_rhs (b : OneSided) :
    select b.rhs (passing OneSided.binds 0 b.rhs) = .ok (b.rhs.filter OneSided.binds) := by
  have hselect := select_passing OneSided.binds [] (b.rhs.map fun v => (v, v))
  simp only [List.map_map, Function.comp_def, List.map_id', List.filter_map] at hselect
  exact hselect

theorem selectBinding_eq_ok {b : OneSided} (h : b.Even) : selectBinding b = .ok b.prune := by
  rw [selectBinding, placesWhere_binds, ok_bind, select_rows h, ok_bind, select_rhs, ok_bind,
    OneSided.prune_eq h]
  rfl

/-- As many rows as right-hand sides are enough to prune. -/
theorem prune_eq_ok {b : OneSided} (h : b.Even) : prune b = .ok b.prune := by
  have hkept := length_passing OneSided.binds 0 b.rhs
  simp only [prune, OneSided.prune, placesWhere_binds, hkept, select_rows h, select_rhs, ok_bind]
  split <;> rfl

end Guarded

/-! ## Sizes -/

structure OneSided.Sized (b : OneSided) (rows cols : ℕ) : Prop where
  nrows : b.mat.nrows = rows
  ncols : b.mat.ncols = cols
  rhs : b.rhs.length = rows

structure Ranges.Sized (r : Ranges) (rows cols : ℕ) : Prop where
  nrows : r.mat.nrows = rows
  ncols : r.mat.ncols = cols
  lower : r.lower.length = rows
  upper : r.upper.length = rows

structure FlatRows.Sized (f : FlatRows) (rows cols : ℕ) : Prop where
  entries : f.entries.length = rows * cols
  rhs : f.rhs.length = rows
  equalities : f.equalities ≤ rows

structure ConeForm.Sized (f : ConeForm) (rows cols : ℕ) : Prop where
  nrows : f.mat.nrows = rows
  ncols : f.mat.ncols = cols
  rhs : f.rhs.length = rows
  cones : (f.cones.map Cone.size).sum = rows

namespace CheckedProblem

variable (p : CheckedProblem)

theorem sized_oneSided : p.oneSided.Sized (p.dims.ineq + 2 * p.dims.var) p.dims.var := by
  have hrhs : p.oneSided.rhs.length = p.dims.ineq + 2 * p.dims.var := by
    simp [oneSided, p.ineqVec_length, p.xMax_length, p.xMin_length]
    omega
  exact ⟨p.even_oneSided.trans hrhs, rfl, hrhs⟩

theorem sized_boundedRows : p.boundedRows.Sized p.boundedRows.numRows p.dims.var :=
  ⟨p.even_boundedRows, p.ncols_boundedRows, rfl⟩

theorem sized_stackedRanges : p.stackedRanges.Sized (p.dims.eq + p.dims.ineq) p.dims.var where
  nrows := by simp [stackedRanges, eqBlock, ineqBlock, p.eqMat_shape.1, p.ineqMat_shape.1]
  ncols := rfl
  lower := p.length_lower_stackedRanges
  upper := p.length_upper_stackedRanges

theorem sized_stackedRangesWithBounds :
    p.stackedRangesWithBounds.Sized (p.dims.eq + p.dims.ineq + p.dims.var) p.dims.var where
  nrows := by rw [p.nrows_stackedRangesWithBounds, Nat.add_assoc]
  ncols := rfl
  lower := by
    simp only [stackedRangesWithBounds, List.length_append, List.length_replicate, p.eqVec_length,
      p.xMin_length]
  upper := by
    simp only [stackedRangesWithBounds, List.length_append, p.eqVec_length, p.ineqVec_length,
      p.xMax_length]

theorem sized_flatRows :
    p.flatRows.Sized (p.dims.eq + (p.dims.ineq + 2 * p.dims.var)) p.dims.var := by
  have hfolded := p.sized_oneSided
  constructor
  · unfold flatRows
    simp only [Matrix.length_rowMajor]
    simp [eqBlock, p.eqMat_shape.1, hfolded.nrows]
  · simp [flatRows, p.eqVec_length, hfolded.rhs]
  · exact Nat.le_add_right _ _

theorem sized_coneForm : p.coneForm.Sized p.coneForm.rhs.length p.dims.var := by
  have hrows := p.length_rhs_coneForm
  constructor
  · exact hrows.symm
  · rw [coneForm, apply_ite ConeForm.mat, apply_ite Matrix.ncols]
    exact ite_self _
  · rfl
  · rw [p.sum_size_cones_coneForm, hrows]

/-! ## No guard stops a step -/

theorem guarded_oneSided : Guarded.oneSided p.problem = .ok p.oneSided := by
  have hmat : Guarded.stack p.problem.dims.var [p.problem.ineqMat, .identity p.problem.dims.var,
      (Matrix.identity p.problem.dims.var).map (-·)] = .ok p.oneSided.mat :=
    Guarded.stack_eq_ok [p.ineqBlock, p.unitBlock, p.negatedUnitBlock]
  have hrhs := p.sized_oneSided.rhs
  rw [← p.ineqVec_length] at hrhs
  have hcollect := Guarded.collect_eq_ok hrhs
  simp only [oneSided, dims] at hmat hcollect
  simp only [Guarded.oneSided, hmat, hcollect, Guarded.ok_bind]
  rfl

theorem guarded_boundedRows : Guarded.prune p.oneSided = .ok p.boundedRows :=
  Guarded.prune_eq_ok p.even_oneSided

theorem guarded_stackedRanges : Guarded.stackedRanges p.problem = .ok p.stackedRanges := by
  have hmat : Guarded.stack p.problem.dims.var [p.problem.eqMat, p.problem.ineqMat] =
      .ok p.stackedRanges.mat := Guarded.stack_eq_ok [p.eqBlock, p.ineqBlock]
  have hlower := Guarded.collect_eq_ok p.sized_stackedRanges.lower
  have hupper := Guarded.collect_eq_ok p.sized_stackedRanges.upper
  simp only [stackedRanges, dims] at hmat hlower hupper
  simp only [Guarded.stackedRanges, hmat, hlower, hupper, Guarded.ok_bind]
  rfl

theorem guarded_stackedRangesWithBounds :
    Guarded.stackedRangesWithBounds p.problem = .ok p.stackedRangesWithBounds := by
  have hmat : Guarded.stack p.problem.dims.var
      [p.problem.eqMat, p.problem.ineqMat, .identity p.problem.dims.var] =
        .ok p.stackedRangesWithBounds.mat :=
    Guarded.stack_eq_ok [p.eqBlock, p.ineqBlock, p.unitBlock]
  have hlower := Guarded.collect_eq_ok p.sized_stackedRangesWithBounds.lower
  have hupper := Guarded.collect_eq_ok p.sized_stackedRangesWithBounds.upper
  simp only [stackedRangesWithBounds, dims] at hmat hlower hupper
  simp only [Guarded.stackedRangesWithBounds, hmat, hlower, hupper, Guarded.ok_bind]
  rfl

theorem guarded_flatRows : Guarded.flatRows p.problem = .ok p.flatRows := by
  have hmat : Guarded.stack p.problem.dims.var [p.problem.eqMat, p.oneSided.mat] =
      .ok (.vstack [p.eqBlock, ⟨p.oneSided.mat, p.ncols_oneSided⟩]) :=
    Guarded.stack_eq_ok [p.eqBlock, ⟨p.oneSided.mat, p.ncols_oneSided⟩]
  simp only [Guarded.flatRows, p.guarded_oneSided, hmat, Guarded.ok_bind]
  rfl

theorem guarded_coneForm : Guarded.coneForm p.problem = .ok p.coneForm := by
  have hmat : Guarded.stack p.problem.dims.var [p.problem.eqMat, p.boundedRows.mat] =
      .ok (.vstack [p.eqBlock, ⟨p.boundedRows.mat, p.ncols_boundedRows⟩]) :=
    Guarded.stack_eq_ok [p.eqBlock, ⟨p.boundedRows.mat, p.ncols_boundedRows⟩]
  simp only [Guarded.coneForm, p.guarded_oneSided, p.guarded_boundedRows, hmat, Guarded.ok_bind]
  exact (apply_ite Except.ok _ _ _).symm

/-- Nothing that the check lets through stops a reformulation, and what comes out has the sizes that
the dimensions say. -/
theorem reformulations_unstopped (p : CheckedProblem) :
    (Guarded.oneSided p.problem = .ok p.oneSided ∧
        p.oneSided.Sized (p.dims.ineq + 2 * p.dims.var) p.dims.var) ∧
      (Guarded.prune p.oneSided = .ok p.boundedRows ∧
        p.boundedRows.Sized p.boundedRows.numRows p.dims.var) ∧
      (Guarded.stackedRanges p.problem = .ok p.stackedRanges ∧
        p.stackedRanges.Sized (p.dims.eq + p.dims.ineq) p.dims.var) ∧
      (Guarded.stackedRangesWithBounds p.problem = .ok p.stackedRangesWithBounds ∧
        p.stackedRangesWithBounds.Sized (p.dims.eq + p.dims.ineq + p.dims.var) p.dims.var) ∧
      (Guarded.flatRows p.problem = .ok p.flatRows ∧
        p.flatRows.Sized (p.dims.eq + (p.dims.ineq + 2 * p.dims.var)) p.dims.var) ∧
      (Guarded.coneForm p.problem = .ok p.coneForm ∧
        p.coneForm.Sized p.coneForm.rhs.length p.dims.var) :=
  ⟨⟨p.guarded_oneSided, p.sized_oneSided⟩, ⟨p.guarded_boundedRows, p.sized_boundedRows⟩,
    ⟨p.guarded_stackedRanges, p.sized_stackedRanges⟩,
    ⟨p.guarded_stackedRangesWithBounds, p.sized_stackedRangesWithBounds⟩,
    ⟨p.guarded_flatRows, p.sized_flatRows⟩, ⟨p.guarded_coneForm, p.sized_coneForm⟩⟩

/-- Without the check a step can be stopped: here a right-hand side is missing. -/
example : Guarded.stackedRanges { Problem.new ⟨1, 1, 0⟩ with eqVec := [] } = .error .count := rfl

end CheckedProblem

end QuadOpt
