import QuadOpt.Proofs.Form.Guarded

/-!
# The same rows in every form

Two-sided rows are stacked with the box and without it, and one-sided rows are stacked by themselves.
Coefficients, lower bounds and upper bounds are put together apart from each other each time. Still a
constraint has the same coefficients and the same bounds wherever it stands.
-/

namespace QuadOpt

/-! ## Rows -/

/-- Row `k` of the block is `row · x ≤ rhs`. -/
structure OneSided.HasRow (b : OneSided) (k : ℕ) (row : List Float) (rhs : Float) : Prop where
  row : b.mat.toLists[k]? = some row
  rhs : b.rhs[k]? = some rhs

/-- Row `k` is `lower ≤ row · x ≤ upper`. -/
structure Ranges.HasRow (r : Ranges) (k : ℕ) (row : List Float) (lower upper : Float) : Prop where
  row : r.mat.toLists[k]? = some row
  lower : r.lower[k]? = some lower
  upper : r.upper[k]? = some upper

namespace Matrix

variable {α : Type}

def take (m : Matrix α) (k : ℕ) : Matrix α := ⟨m.ncols, m.rows.take k⟩

def drop (m : Matrix α) (k : ℕ) : Matrix α := ⟨m.ncols, m.rows.drop k⟩

theorem toLists_take (m : Matrix α) (k : ℕ) : (m.take k).toLists = m.toLists.take k :=
  List.map_take

theorem toLists_drop (m : Matrix α) (k : ℕ) : (m.drop k).toLists = m.toLists.drop k :=
  List.map_drop

end Matrix

/-- The first `k` rows. -/
def Ranges.take (r : Ranges) (k : ℕ) : Ranges := ⟨r.mat.take k, r.lower.take k, r.upper.take k⟩

/-- All rows but the first `k`. -/
def Ranges.drop (r : Ranges) (k : ℕ) : Ranges := ⟨r.mat.drop k, r.lower.drop k, r.upper.drop k⟩

def unitRow {n : ℕ} (i : Fin n) : List Float := List.ofFn fun c => if i = c then 1 else 0

def minusUnitRow {n : ℕ} (i : Fin n) : List Float := List.ofFn fun c => if i = c then -1 else 0

theorem getElem?_identity {n : ℕ} (i : Fin n) :
    (Matrix.identity n : Matrix Float).toLists[(i : ℕ)]? = some (unitRow i) := by
  simp [Matrix.identity, Matrix.ofFn, Matrix.toLists, Vector.toList_ofFn, unitRow]

theorem toLists_map {α β : Type} (f : α → β) (m : Matrix α) :
    (m.map f).toLists = m.toLists.map (·.map f) := by
  simp [Matrix.map, Matrix.toLists, Vector.toList_map]

/-- The zeros have turned negative, which makes no difference to a number. -/
theorem map_neg_unitRow_beq {n : ℕ} (i : Fin n) :
    ((unitRow i).map (-·) == minusUnitRow i) = true := by
  rw [Matrix.beq_lists_iff]
  refine ⟨by simp [unitRow, minusUnitRow], fun c _ _ => ?_⟩
  simp only [unitRow, minusUnitRow, List.getElem_map, List.getElem_ofFn]
  split
  · decide +kernel
  · decide +kernel

namespace CheckedProblem

variable (p : CheckedProblem)

/-! ## Two-sided rows with the box and without it -/

theorem length_toLists_stackedRanges :
    p.stackedRanges.mat.toLists.length = p.dims.eq + p.dims.ineq := by
  rw [Matrix.length_toLists, p.sized_stackedRanges.nrows]

theorem toLists_stackedRangesWithBounds :
    p.stackedRangesWithBounds.mat.toLists =
      p.stackedRanges.mat.toLists ++ (Matrix.identity p.dims.var).toLists := by
  simp [stackedRangesWithBounds, stackedRanges, unitBlock]

theorem take_stackedRangesWithBounds :
    p.stackedRangesWithBounds.take (p.dims.eq + p.dims.ineq) = p.stackedRanges := by
  have hmat : p.stackedRangesWithBounds.mat.take (p.dims.eq + p.dims.ineq) =
      p.stackedRanges.mat := by
    refine Matrix.eq_of_toLists_eq rfl ?_
    rw [Matrix.toLists_take, toLists_stackedRangesWithBounds,
      List.take_left' p.length_toLists_stackedRanges]
  have hlower : p.stackedRangesWithBounds.lower.take (p.dims.eq + p.dims.ineq) =
      p.stackedRanges.lower := List.take_left' p.length_lower_stackedRanges
  have hupper : p.stackedRangesWithBounds.upper.take (p.dims.eq + p.dims.ineq) =
      p.stackedRanges.upper := List.take_left' p.length_upper_stackedRanges
  rw [Ranges.take, hmat, hlower, hupper]

theorem drop_stackedRangesWithBounds :
    p.stackedRangesWithBounds.drop (p.dims.eq + p.dims.ineq) =
      ⟨.identity p.dims.var, p.problem.xMin, p.problem.xMax⟩ := by
  have hmat : p.stackedRangesWithBounds.mat.drop (p.dims.eq + p.dims.ineq) =
      .identity p.dims.var := by
    refine Matrix.eq_of_toLists_eq rfl ?_
    rw [Matrix.toLists_drop, toLists_stackedRangesWithBounds,
      List.drop_left' p.length_toLists_stackedRanges]
  have hlower : p.stackedRangesWithBounds.lower.drop (p.dims.eq + p.dims.ineq) =
      p.problem.xMin := List.drop_left' p.length_lower_stackedRanges
  have hupper : p.stackedRangesWithBounds.upper.drop (p.dims.eq + p.dims.ineq) =
      p.problem.xMax := List.drop_left' p.length_upper_stackedRanges
  rw [Ranges.drop, hmat, hlower, hupper]

/-! ## Rows of a constraint -/

theorem toLists_oneSided :
    p.oneSided.mat.toLists = p.problem.ineqMat.toLists ++
      ((Matrix.identity p.dims.var).toLists ++
        (Matrix.identity p.dims.var).toLists.map (·.map (-·))) := by
  simp [oneSided, ineqBlock, unitBlock, negatedUnitBlock, toLists_map]

theorem length_toLists_ineqMat : p.problem.ineqMat.toLists.length = p.dims.ineq := by
  rw [Matrix.length_toLists, p.ineqMat_shape.1]

theorem length_toLists_identity (n : ℕ) : (Matrix.identity n : Matrix Float).toLists.length = n := by
  rw [Matrix.length_toLists, Matrix.nrows_identity]

theorem exists_hasRow_ineq (j : Fin p.dims.ineq) :
    ∃ row lower upper, p.stackedRanges.HasRow (p.dims.eq + j) row lower upper ∧
      p.oneSided.HasRow j row upper := by
  have hrow : j < p.problem.ineqMat.toLists.length := p.length_toLists_ineqMat.symm ▸ j.2
  have hupper : j < p.problem.ineqVec.length := p.ineqVec_length.symm ▸ j.2
  have hequal : p.problem.eqMat.toLists.length = p.dims.eq := by
    rw [Matrix.length_toLists, p.eqMat_shape.1]
  refine ⟨p.problem.ineqMat.toLists[(j : ℕ)], negativeInfinity, p.problem.ineqVec[(j : ℕ)],
    ⟨?_, ?_, ?_⟩, ⟨?_, ?_⟩⟩
  · simp only [stackedRanges, Matrix.toLists_vstack_cons, Matrix.toLists_vstack_nil,
      List.append_nil, eqBlock, ineqBlock]
    rw [Matrix.getElem?_append_add hequal, List.getElem?_eq_getElem hrow]
  · rw [stackedRanges, Matrix.getElem?_append_add p.eqVec_length, List.getElem?_replicate, if_pos j.2]
  · rw [stackedRanges, Matrix.getElem?_append_add p.eqVec_length, List.getElem?_eq_getElem hupper]
  · rw [toLists_oneSided, List.getElem?_append_left hrow, List.getElem?_eq_getElem hrow]
  · rw [oneSided, List.append_assoc, List.getElem?_append_left hupper,
      List.getElem?_eq_getElem hupper]

theorem exists_hasRow_bounds (i : Fin p.dims.var) :
    ∃ lower upper,
      p.stackedRangesWithBounds.HasRow (p.dims.eq + p.dims.ineq + i) (unitRow i) lower upper ∧
        p.oneSided.HasRow (p.dims.ineq + i) (unitRow i) upper ∧
        p.oneSided.HasRow (p.dims.ineq + p.dims.var + i) ((unitRow i).map (-·)) (-lower) := by
  have hmin : i < p.problem.xMin.length := p.xMin_length.symm ▸ i.2
  have hmax : i < p.problem.xMax.length := p.xMax_length.symm ▸ i.2
  have hunit : i < (Matrix.identity p.dims.var : Matrix Float).toLists.length :=
    (length_toLists_identity _).symm ▸ i.2
  refine ⟨p.problem.xMin[(i : ℕ)], p.problem.xMax[(i : ℕ)], ⟨?_, ?_, ?_⟩, ⟨?_, ?_⟩, ⟨?_, ?_⟩⟩
  · rw [toLists_stackedRangesWithBounds, Matrix.getElem?_append_add p.length_toLists_stackedRanges,
      getElem?_identity]
  · rw [stackedRangesWithBounds, Matrix.getElem?_append_add p.length_lower_stackedRanges,
      List.getElem?_eq_getElem hmin]
  · rw [stackedRangesWithBounds, Matrix.getElem?_append_add p.length_upper_stackedRanges,
      List.getElem?_eq_getElem hmax]
  · rw [toLists_oneSided, Matrix.getElem?_append_add p.length_toLists_ineqMat,
      List.getElem?_append_left hunit, getElem?_identity]
  · rw [oneSided, List.append_assoc, Matrix.getElem?_append_add p.ineqVec_length,
      List.getElem?_append_left hmax, List.getElem?_eq_getElem hmax]
  · rw [toLists_oneSided, Nat.add_assoc, Matrix.getElem?_append_add p.length_toLists_ineqMat,
      Matrix.getElem?_append_add (length_toLists_identity _), List.getElem?_map, getElem?_identity]
    rfl
  · rw [oneSided, List.append_assoc, Nat.add_assoc, Matrix.getElem?_append_add p.ineqVec_length,
      Matrix.getElem?_append_add p.xMax_length, List.getElem?_map, List.getElem?_eq_getElem hmin]
    rfl

/-- With the box, the two-sided rows are those without it and then one for each variable. The
one-sided rows are those of the inequalities, then those of the upper bounds, and then those of the
lower bounds with the sign turned. -/
theorem stacked_forms_aligned (p : CheckedProblem) :
    p.stackedRangesWithBounds.Sized (p.dims.eq + p.dims.ineq + p.dims.var) p.dims.var ∧
      p.stackedRangesWithBounds.take (p.dims.eq + p.dims.ineq) = p.stackedRanges ∧
      p.stackedRangesWithBounds.drop (p.dims.eq + p.dims.ineq) =
        ⟨.identity p.dims.var, p.problem.xMin, p.problem.xMax⟩ ∧
      p.oneSided.Sized (p.dims.ineq + 2 * p.dims.var) p.dims.var ∧
      (∀ j : Fin p.dims.ineq, ∃ row lower upper,
        p.stackedRanges.HasRow (p.dims.eq + j) row lower upper ∧ p.oneSided.HasRow j row upper) ∧
      ∀ i : Fin p.dims.var, ∃ lower upper minusUnit,
        p.stackedRangesWithBounds.HasRow (p.dims.eq + p.dims.ineq + i) (unitRow i) lower upper ∧
          p.oneSided.HasRow (p.dims.ineq + i) (unitRow i) upper ∧
          p.oneSided.HasRow (p.dims.ineq + p.dims.var + i) minusUnit (-lower) ∧
          (minusUnit == minusUnitRow i) = true := by
  refine ⟨p.sized_stackedRangesWithBounds, p.take_stackedRangesWithBounds,
    p.drop_stackedRangesWithBounds, p.sized_oneSided, p.exists_hasRow_ineq, fun i => ?_⟩
  obtain ⟨lower, upper, htwo, hupper, hlower⟩ := p.exists_hasRow_bounds i
  exact ⟨lower, upper, _, htwo, hupper, hlower, map_neg_unitRow_beq i⟩

end CheckedProblem

end QuadOpt
