import QuadOpt.Proofs.Number.Comparison

/-!
# Crossed bounds

An equality row is pinned to one value and an inequality row is open below, so only the box can have
crossed bounds. The first crossed row is the row of the first variable with crossed bounds.
-/

namespace QuadOpt

namespace Ranges

theorem firstCrossed?_eq_some_iff (lower upper : List Float) (k : Nat) :
    firstCrossed? lower upper = some k ↔
      (∃ (hlower : k < lower.length) (hupper : k < upper.length), upper[k] < lower[k]) ∧
        ∀ j, j < k → ∀ (hlower : j < lower.length) (hupper : j < upper.length),
          ¬ upper[j] < lower[j] := by
  rw [firstCrossed?, List.findIdx?_eq_some_iff_getElem]
  simp only [List.length_zip, List.getElem_zip, Nat.lt_min, decide_eq_true_eq]
  constructor
  · rintro ⟨⟨hlower, hupper⟩, hcrossed, hbefore⟩
    exact ⟨⟨hlower, hupper, hcrossed⟩, fun j hj _ _ => hbefore j hj⟩
  · rintro ⟨⟨hlower, hupper, hcrossed⟩, hbefore⟩
    exact ⟨⟨hlower, hupper⟩, hcrossed, fun j hj => hbefore j hj (by omega) (by omega)⟩

theorem firstCrossed?_eq_none_iff (lower upper : List Float) :
    firstCrossed? lower upper = none ↔
      ∀ i (hlower : i < lower.length) (hupper : i < upper.length), ¬ upper[i] < lower[i] := by
  rw [firstCrossed?, List.findIdx?_eq_none_iff, List.forall_mem_iff_getElem]
  simp only [List.length_zip, List.getElem_zip, Nat.lt_min, decide_eq_false_iff_not]
  exact ⟨fun h i hlower hupper => h i ⟨hlower, hupper⟩, fun h i hi => h i hi.1 hi.2⟩

theorem firstCrossed?_append {lower upper : List Float} (h : lower.length = upper.length)
    (lower' upper' : List Float) :
    firstCrossed? (lower ++ lower') (upper ++ upper') =
      (firstCrossed? lower upper).or ((firstCrossed? lower' upper').map (lower.length + ·)) := by
  simp only [firstCrossed?, List.zip_append h, List.findIdx?_append, List.length_zip, ← h,
    Nat.min_self, Nat.add_comm]

theorem firstCrossed?_pinned (v : List Float) : firstCrossed? v v = none := by
  rw [firstCrossed?_eq_none_iff]
  intro i _ _
  exact Binary64.not_lt_self _

theorem firstCrossed?_open (n : Nat) (upper : List Float) :
    firstCrossed? (List.replicate n negativeInfinity) upper = none := by
  rw [firstCrossed?_eq_none_iff]
  intro i _ _
  rw [List.getElem_replicate]
  exact Binary64.not_lt_negativeInfinity _

end Ranges

namespace CheckedProblem

variable (p : CheckedProblem)

/-- The lower bound of variable `k` is above its upper one. -/
def CrossedAt (k : Nat) : Prop :=
  ∃ (hmin : k < p.problem.xMin.length) (hmax : k < p.problem.xMax.length),
    p.problem.xMax[k] < p.problem.xMin[k]

/-- Variable `k` is the first one with crossed bounds. -/
def FirstCrossed (k : Nat) : Prop := p.CrossedAt k ∧ ∀ j, j < k → ¬ p.CrossedAt j

theorem firstCrossed?_box_eq_some_iff (k : Nat) :
    Ranges.firstCrossed? p.problem.xMin p.problem.xMax = some k ↔ p.FirstCrossed k := by
  rw [Ranges.firstCrossed?_eq_some_iff, FirstCrossed]
  simp [CrossedAt]

theorem length_lower_stackedRanges :
    (p.problem.eqVec ++ List.replicate p.dims.ineq negativeInfinity).length =
      p.dims.eq + p.dims.ineq := by
  rw [List.length_append, p.eqVec_length, List.length_replicate]

theorem length_upper_stackedRanges :
    (p.problem.eqVec ++ p.problem.ineqVec).length = p.dims.eq + p.dims.ineq := by
  rw [List.length_append, p.eqVec_length, p.ineqVec_length]

theorem nrows_stackedRangesWithBounds :
    p.stackedRangesWithBounds.mat.nrows = p.dims.eq + (p.dims.ineq + p.dims.var) := by
  simp [stackedRangesWithBounds, eqBlock, ineqBlock, unitBlock, p.eqMat_shape.1,
    p.ineqMat_shape.1]

theorem firstCrossedRow?_stackedRanges : p.stackedRanges.firstCrossedRow? = none := by
  rw [Ranges.firstCrossedRow?, stackedRanges, Ranges.firstCrossed?_append rfl,
    Ranges.firstCrossed?_pinned, Ranges.firstCrossed?_open]
  rfl

theorem firstCrossedRow?_stackedRangesWithBounds :
    p.stackedRangesWithBounds.firstCrossedRow? =
      (Ranges.firstCrossed? p.problem.xMin p.problem.xMax).map (p.dims.eq + p.dims.ineq + ·) := by
  have hrows := p.firstCrossedRow?_stackedRanges
  rw [Ranges.firstCrossedRow?, stackedRanges] at hrows
  rw [Ranges.firstCrossedRow?, stackedRangesWithBounds,
    Ranges.firstCrossed?_append (p.length_lower_stackedRanges.trans p.length_upper_stackedRanges.symm),
    hrows, Option.none_or, p.length_lower_stackedRanges]

theorem firstCrossedRow?_eq_some_iff (row : Nat) :
    p.stackedRangesWithBounds.firstCrossedRow? = some row ↔
      ∃ k, row = p.dims.eq + p.dims.ineq + k ∧ p.FirstCrossed k := by
  rw [firstCrossedRow?_stackedRangesWithBounds, Option.map_eq_some_iff]
  simp only [firstCrossed?_box_eq_some_iff]
  exact exists_congr fun k => and_comm.trans (and_congr_left' eq_comm)

theorem firstCrossedRow?_eq_none_iff :
    p.stackedRangesWithBounds.firstCrossedRow? = none ↔ ∀ k, ¬ p.CrossedAt k := by
  rw [firstCrossedRow?_stackedRangesWithBounds, Option.map_eq_none_iff,
    Ranges.firstCrossed?_eq_none_iff]
  simp [CrossedAt]

end CheckedProblem

end QuadOpt
