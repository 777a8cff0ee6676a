import Mathlib
import QuadOpt.Proofs.Form.Prune

/-!
# The cones of a problem

The cones cover all rows of the form, and they follow from the number of equalities and the number of
rows alone.
-/

namespace QuadOpt.CheckedProblem

variable (p : CheckedProblem)

/-- The cones of a problem with `eq` equalities and `bounded` further rows. -/
def conesOf (eq bounded : Nat) : List Cone :=
  (if 0 < eq then [Cone.zero eq] else []) ++ (if 0 < bounded then [Cone.nonnegative bounded] else [])

theorem conesOf_eq_nil_iff (eq bounded : Nat) : conesOf eq bounded = [] ↔ eq = 0 ∧ bounded = 0 := by
  unfold conesOf
  by_cases he : 0 < eq <;> by_cases hb : 0 < bounded <;> simp [he, hb] <;> omega

theorem coneForm_of_nil (h : conesOf p.dims.eq p.boundedRows.numRows = []) :
    p.coneForm = ⟨.zeros 1 p.dims.var, [1], [.nonnegative 1]⟩ := by
  unfold coneForm
  exact if_pos (by simpa [conesOf] using h)

theorem coneForm_of_ne_nil (h : conesOf p.dims.eq p.boundedRows.numRows ≠ []) :
    p.coneForm =
      { mat := .vstack [p.eqBlock, ⟨p.boundedRows.mat, p.ncols_boundedRows⟩]
        rhs := p.problem.eqVec ++ p.boundedRows.rhs
        cones := conesOf p.dims.eq p.boundedRows.numRows } := by
  unfold coneForm
  exact if_neg (by simpa [conesOf] using h)

theorem nrows_coneForm_of_ne_nil (h : conesOf p.dims.eq p.boundedRows.numRows ≠ []) :
    p.coneForm.mat.nrows = p.dims.eq + p.boundedRows.numRows := by
  rw [p.coneForm_of_ne_nil h, ← p.even_boundedRows]
  simp [eqBlock, p.eqMat_shape.1]

theorem length_rhs_coneForm : p.coneForm.rhs.length = p.coneForm.mat.nrows := by
  by_cases h : conesOf p.dims.eq p.boundedRows.numRows = []
  · rw [p.coneForm_of_nil h]
    rfl
  · rw [p.nrows_coneForm_of_ne_nil h, p.coneForm_of_ne_nil h, List.length_append, p.eqVec_length]
    rfl

theorem cones_coneForm :
    p.coneForm.cones = conesOf p.dims.eq (p.coneForm.mat.nrows - p.dims.eq) := by
  by_cases h : conesOf p.dims.eq p.boundedRows.numRows = []
  · have heq := ((conesOf_eq_nil_iff _ _).1 h).1
    rw [p.coneForm_of_nil h, heq]
    rfl
  · rw [p.nrows_coneForm_of_ne_nil h, Nat.add_sub_cancel_left, p.coneForm_of_ne_nil h]

theorem cones_coneForm_ne_nil : p.coneForm.cones ≠ [] := by
  by_cases h : conesOf p.dims.eq p.boundedRows.numRows = []
  · rw [p.coneForm_of_nil h]
    exact List.cons_ne_nil _ _
  · rw [p.coneForm_of_ne_nil h]
    exact h

theorem sum_size_conesOf (eq bounded : Nat) :
    ((conesOf eq bounded).map Cone.size).sum = eq + bounded := by
  unfold conesOf
  by_cases he : 0 < eq <;> by_cases hb : 0 < bounded <;> simp [he, hb, Cone.size] <;> omega

theorem sum_size_cones_coneForm :
    (p.coneForm.cones.map Cone.size).sum = p.coneForm.mat.nrows := by
  by_cases h : conesOf p.dims.eq p.boundedRows.numRows = []
  · rw [p.coneForm_of_nil h]
    rfl
  · rw [p.nrows_coneForm_of_ne_nil h, p.coneForm_of_ne_nil h, sum_size_conesOf]

end QuadOpt.CheckedProblem
