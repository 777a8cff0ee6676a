import QuadOpt.Error
import QuadOpt.Proofs.History

/-!
# Coefficients that do not fit

A problem is refused just if one of its eight coefficients has not the size that the dimensions ask
for. The refusal names the first such coefficient and both sizes.
-/

namespace QuadOpt

namespace Problem

/-- Each of the eight coefficients has the size that goes with the declared dimensions. -/
structure Consistent (p : Problem) : Prop where
  objMat : p.objMat.nrows = p.dims.var ∧ p.objMat.ncols = p.dims.var
  objVec : p.objVec.length = p.dims.var
  eqMat : p.eqMat.nrows = p.dims.eq ∧ p.eqMat.ncols = p.dims.var
  eqVec : p.eqVec.length = p.dims.eq
  ineqMat : p.ineqMat.nrows = p.dims.ineq ∧ p.ineqMat.ncols = p.dims.var
  ineqVec : p.ineqVec.length = p.dims.ineq
  xMin : p.xMin.length = p.dims.var
  xMax : p.xMax.length = p.dims.var

theorem consistent_iff (p : Problem) :
    p.Consistent ↔ ∀ f, (p.block f).shape = f.shape p.dims := by
  constructor
  · intro h f
    cases f <;> simp [block, Block.shape, Field.shape, h.objMat, h.objVec, h.eqMat, h.eqVec,
      h.ineqMat, h.ineqVec, h.xMin, h.xMax]
  · intro h
    let q : CheckedProblem := ⟨p, h⟩
    exact
      { objMat := q.objMat_shape
        objVec := q.objVec_length
        eqMat := q.eqMat_shape
        eqVec := q.eqVec_length
        ineqMat := q.ineqMat_shape
        ineqVec := q.ineqVec_length
        xMin := q.xMin_length
        xMax := q.xMax_length }

theorem check_of_mismatch?_eq_none {p : Problem} (h : p.mismatch? = none) :
    p.check = .ok ⟨p, p.mismatch?_eq_none_iff.1 h⟩ := by
  unfold check
  split
  · next m hm =>
    rw [h] at hm
    cases hm
  · rfl

/-! ## Which coefficient is named -/

/-- `m` tells of the first coefficient, in listing order, that has another size than the one asked
for, and of both sizes. -/
structure FirstMismatch (p : Problem) (m : Mismatch) : Prop where
  expected : m.expected = m.field.shape p.dims
  actual : m.actual = (p.block m.field).shape
  differs : m.actual ≠ m.expected
  earlier : ∃ before after, Field.all = before ++ m.field :: after ∧
    ∀ f ∈ before, (p.block f).shape = f.shape p.dims

theorem mismatchAt?_eq_none_iff (p : Problem) (f : Field) :
    p.mismatchAt? f = none ↔ (p.block f).shape = f.shape p.dims := by
  simp [mismatchAt?]

theorem mismatchAt?_eq_some_iff (p : Problem) (f : Field) (m : Mismatch) :
    p.mismatchAt? f = some m ↔ (p.block f).shape ≠ f.shape p.dims ∧
      ⟨f, f.shape p.dims, (p.block f).shape⟩ = m := by
  simp [mismatchAt?]

theorem mismatch?_eq_some_iff (p : Problem) (m : Mismatch) :
    p.mismatch? = some m ↔ p.FirstMismatch m := by
  rw [mismatch?, List.findSome?_eq_some_iff]
  simp only [mismatchAt?_eq_some_iff, mismatchAt?_eq_none_iff]
  constructor
  · rintro ⟨before, f, after, hsplit, ⟨hdiffers, rfl⟩, hbefore⟩
    exact ⟨rfl, rfl, hdiffers, before, after, hsplit, hbefore⟩
  · rintro ⟨hexpected, hactual, hdiffers, before, after, hsplit, hbefore⟩
    refine ⟨before, m.field, after, hsplit, ⟨?_, ?_⟩, hbefore⟩
    · rwa [hexpected, hactual] at hdiffers
    · rw [← hexpected, ← hactual]

theorem check_eq_error_iff (p : Problem) (m : Mismatch) :
    p.check = .error m ↔ p.FirstMismatch m := by
  rw [← mismatch?_eq_some_iff]
  cases hm : p.mismatch? with
  | some n => simp [check_of_mismatch? hm]
  | none => simp [check_of_mismatch?_eq_none hm]

theorem exists_check_eq_error_iff (p : Problem) :
    (∃ m, p.check = .error m) ↔ ¬ p.Consistent := by
  simp only [consistent_iff, ← mismatch?_eq_none_iff, check_eq_error_iff, ← mismatch?_eq_some_iff,
    ← Option.ne_none_iff_exists', ne_eq]

theorem validate_eq_error_iff (p : Problem) (m : Mismatch) :
    p.validate = .error m ↔ p.check = .error m := by
  unfold validate
  cases p.check <;> simp [Except.map]

/-! ## The message -/

/-- The message names the coefficient, the size asked for and the size found. -/
inductive Mismatch.Reported (m : Mismatch) : String → Prop where
  | matrix {r c r' c' : Nat} (hexpected : m.expected = .matrix r c)
    (hactual : m.actual = .matrix r' c') :
    Reported m ("Dimension mismatch: " ++ (m.field.name ++ " must be " ++
      (toString r ++ "x" ++ toString c) ++ ", got " ++ (toString r' ++ "x" ++ toString c')))
  | vector {n n' : Nat} (hexpected : m.expected = .vector n) (hactual : m.actual = .vector n') :
    Reported m ("Dimension mismatch: " ++ (m.field.name ++ " must have length " ++ toString n ++
      ", got " ++ toString n'))

/-- A matrix is asked for where there is one, and a vector likewise: each message has both sizes. -/
theorem FirstMismatch.reported {p : Problem} {m : Mismatch} (h : p.FirstMismatch m) :
    m.Reported (Error.dimensionMismatch m).message := by
  have hdetail : (Error.dimensionMismatch m).message = "Dimension mismatch: " ++ m.detail := rfl
  have hexpected := h.expected
  have hactual := h.actual
  rw [hdetail, Mismatch.detail]
  cases hfield : m.field with
  | objMat | eqMat | ineqMat =>
    rw [hfield] at hexpected hactual
    simp only [Field.shape] at hexpected
    simp only [block, Block.shape] at hactual
    rw [hexpected, hactual, ← hfield]
    exact .matrix hexpected hactual
  | objVec | eqVec | ineqVec | xMin | xMax =>
    rw [hfield] at hexpected hactual
    simp only [Field.shape] at hexpected
    simp only [block, Block.shape] at hactual
    rw [hexpected, hactual, ← hfield]
    exact .vector hexpected hactual

end Problem

theorem CheckedProblem.check_problem (p : CheckedProblem) : p.problem.check = .ok p :=
  Problem.check_of_mismatch?_eq_none (p.problem.mismatch?_eq_none_iff.2 p.fits)

end QuadOpt
