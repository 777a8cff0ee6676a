import QuadOpt.Adapter.Factored
import QuadOpt.Proofs.Matrix.Substitution

/-!
# The factor of a positive definite objective

The inverse upper factor is composed of two routines. If they are exact, it is the upper triangular
`U` with `U Uᵀ` the inverse of the matrix.

Substitution is exact where arithmetic is: no pivot of a positive definite matrix fails, as the pivot
of row `k` is the value of the quadratic form at a vector whose entry `k` is one.
-/

namespace QuadOpt

/-- Every positive number has a positive root, and it is found. -/
class ExactRoot (α : Type) [Zero α] [Mul α] [LT α] [PositiveRoot α] : Prop where
  exists_root : ∀ v : α, 0 < v → ∃ d, PositiveRoot.root? v = some d ∧ 0 < d ∧ d * d = v

namespace Triangular

open Finset (range)

variable {α : Type} [CommRing α] {a : ℕ → ℕ → α} {k n : ℕ}

/-! ## Sums -/

theorem sum_range_cut {f : ℕ → α} (hk : k ≤ n) (hf : ∀ i, k ≤ i → f i = 0) :
    ∑ i ∈ range n, f i = ∑ i ∈ range k, f i := by
  symm
  apply Finset.sum_subset (Finset.range_subset_range.2 hk)
  intro i _ hi
  exact hf i (by simpa using hi)

theorem form_concat (hsym : ∀ i, i < k → a i k = a k i) (w : Fin k → α) :
    let x : ℕ → α := fun i => if h : i < k then -w ⟨i, h⟩ else 1
    ∑ i ∈ range (k + 1), ∑ j ∈ range (k + 1), x i * a i j * x j =
      ∑ i : Fin k, ∑ j : Fin k, w i * a i j * w j - 2 * ∑ i : Fin k, w i * a k i + a k k := by
  intro x
  have hx (i : Fin k) : x i = -w i := dif_pos i.2
  have hk : x k = 1 := dif_neg (lt_irrefl k)
  have hcolumn (i : Fin k) : a i k = a k i := hsym i i.2
  simp only [Finset.sum_range_succ, Finset.sum_add_distrib, Finset.sum_range, hx, hk, hcolumn,
    neg_mul, mul_neg, mul_one, one_mul, Finset.sum_neg_distrib]
  simp only [mul_comm (a k _)]
  ring

variable [LinearOrder α]

/-! ## Exact routines -/

/-- The lower triangular matrix with positive diagonal whose product with its transpose is `q`. -/
structure IsLowerFactor {n : ℕ} (q l : Fin n → Fin n → α) : Prop where
  triangular : ∀ r c, r < c → l r c = 0
  positive : ∀ r, 0 < l r r
  product : Matrix.of l * (Matrix.of l).transpose = Matrix.of q

/-- What routines do in exact arithmetic. -/
structure Routines.Exact (r : Routines α) : Prop where
  lowerFactor : ∀ {n : ℕ} (q : Fin n → Fin n → α), (∀ i j, q i j = q j i) →
    (∀ x : Fin n → α, x ≠ 0 → 0 < ∑ i, ∑ j, x i * q i j * x j) →
    ∃ l, r.lowerFactor? (.ofFn n n q) = some (.ofFn n n l) ∧ IsLowerFactor q l
  solveUpper : ∀ {n k : ℕ} (u : Fin n → Fin n → α) (b : Fin n → Fin k → α),
    (∀ i j, j < i → u i j = 0) → (∀ i, u i i ≠ 0) →
    ∃ x, r.solveUpper? (.ofFn n n u) (.ofFn n k b) = some (.ofFn n k x) ∧
      Matrix.of u * Matrix.of x = Matrix.of b

variable {q l u : Fin n → Fin n → α}

/-- The inverse of an upper triangular matrix is upper triangular. -/
theorem IsLowerFactor.inverse_of_lt (h : IsLowerFactor q l)
    (hu : (Matrix.of l).transpose * Matrix.of u = 1) {r c : Fin n} (hrc : c < r) : u r c = 0 := by
  have hupper : (Matrix.of l).transpose.BlockTriangular id := fun i j hij => h.triangular j i hij
  have hinvertible : Invertible (Matrix.of l).transpose :=
    invertibleOfRightInverse _ _ hu
  have hinverse := Matrix.blockTriangular_inv_of_blockTriangular hupper
  rw [Matrix.inv_eq_right_inv hu] at hinverse
  exact hinverse hrc

/-- With `U` the inverse of `Lᵀ`, this is `U Uᵀ L Lᵀ`. -/
theorem IsLowerFactor.mul_transpose_mul_eq_one (h : IsLowerFactor q l)
    (hu : (Matrix.of l).transpose * Matrix.of u = 1) :
    Matrix.of u * (Matrix.of u).transpose * Matrix.of q = 1 := by
  have hleft : Matrix.of u * (Matrix.of l).transpose = 1 := mul_eq_one_comm.1 hu
  have hturned : (Matrix.of u).transpose * Matrix.of l = 1 := by
    have hboth := congrArg (fun m => m.transpose) hu
    rw [Matrix.transpose_mul, Matrix.transpose_one] at hboth
    exact hboth
  calc
    Matrix.of u * (Matrix.of u).transpose * Matrix.of q
        = Matrix.of u * ((Matrix.of u).transpose * Matrix.of l) * (Matrix.of l).transpose := by
          rw [← h.product]
          simp only [Matrix.mul_assoc]
    _ = 1 := by rw [hturned, Matrix.mul_one, hleft]

section

/-! ## Known rows -/

/-- The rows found so far multiply to the rows of the matrix. -/
structure Factors (a : ℕ → ℕ → α) (l : Lower α) : Prop where
  regular : Regular l
  positive : ∀ row ∈ l, 0 < row.diagonal
  product : ∀ i j, i < l.length → j < l.length →
    ∑ t ∈ range l.length, entry l i t * entry l j t = a i j

variable {a : ℕ → ℕ → α} {l : Lower α}

theorem Factors.square_mul_transpose (h : Factors a l) :
    square l * (square l).transpose = Matrix.of fun i j : Fin l.length => a i j := by
  ext i j
  rw [Matrix.mul_apply]
  simp only [square, Matrix.of_apply, Matrix.transpose_apply]
  rw [Fin.sum_univ_eq_sum_range fun t => entry l i t * entry l j t]
  exact h.product i j i.2 j.2

theorem Factors.concat (h : Factors a l) (hsym : ∀ i, i < l.length → a i l.length = a l.length i)
    {left : List α} (hleft : Solves l ((List.range l.length).map (a l.length)) left) {d : α}
    (hd : 0 < d)
    (hdd : d * d = a l.length l.length - ∑ t ∈ range l.length, left.getD t 0 * left.getD t 0) :
    Factors a (l ++ [⟨left, d⟩]) := by
  have hregular : Regular (l ++ [⟨left, d⟩]) :=
    regular_concat_iff.2 ⟨h.regular, hleft.1, hd.ne'⟩
  have hpositive : ∀ row ∈ l ++ [⟨left, d⟩], 0 < row.diagonal := by
    intro row hrow
    rcases List.mem_append.1 hrow with hrow | hrow
    · exact h.positive row hrow
    · rw [List.mem_singleton.1 hrow]
      exact hd
  have hold {i t : ℕ} (hi : i < l.length) : entry (l ++ [⟨left, d⟩]) i t = entry l i t :=
    entry_append_of_lt hi _ t
  have hzero {i : ℕ} (hi : i < l.length) : entry l i l.length = 0 := entry_of_lt h.regular hi hi
  have hnew {t : ℕ} (ht : t ∈ range l.length) :
      entry (l ++ [⟨left, d⟩]) l.length t = left.getD t 0 := by
    rw [Finset.mem_range, ← hleft.1] at ht
    rw [entry_concat_length, getD_append_of_lt ht]
  have hlast : entry (l ++ [⟨left, d⟩]) l.length l.length = d := by
    simp [entry_concat_length, hleft.1]
  have hrow {i : ℕ} (hi : i < l.length) :
      ∑ t ∈ range l.length, entry l i t * left.getD t 0 = a l.length i := by
    rw [hleft.2 i hi, List.getD_eq_getElem?_getD, List.getElem?_map, List.getElem?_range hi]
    rfl
  refine ⟨hregular, hpositive, fun i j hi hj => ?_⟩
  rw [List.length_append, List.length_singleton] at hi hj ⊢
  rw [Finset.sum_range_succ]
  rcases Nat.lt_succ_iff_lt_or_eq.1 hi with hi | rfl <;>
    rcases Nat.lt_succ_iff_lt_or_eq.1 hj with hj | rfl
  · simp only [hold hi, hold hj, hzero hi, zero_mul, add_zero]
    exact h.product i j hi hj
  · rw [hold hi, hzero hi, zero_mul, add_zero, hsym i hi, ← hrow hi]
    exact Finset.sum_congr rfl fun t ht => by rw [hold hi, hnew ht]
  · rw [hold hj, hzero hj, mul_zero, add_zero, ← hrow hj]
    exact Finset.sum_congr rfl fun t ht => by rw [hold hj, hnew ht, mul_comm]
  · rw [hlast, hdd, Finset.sum_congr rfl fun t ht => by rw [hnew ht]]
    ring

/-! ## Positive pivots -/

/-- The quadratic form of the first `n` rows and columns is positive. -/
def PositiveOn (a : ℕ → ℕ → α) (n : ℕ) : Prop :=
  ∀ x : ℕ → α, (∃ i, i < n ∧ x i ≠ 0) → 0 < ∑ i ∈ range n, ∑ j ∈ range n, x i * a i j * x j

theorem PositiveOn.mono (h : PositiveOn a n) (hk : k ≤ n) : PositiveOn a k := by
  intro x ⟨i, hi, hx⟩
  -- A vector with zeros from `k` on has the same value on both.
  let y : ℕ → α := fun j => if j < k then x j else 0
  have hout {j : ℕ} (hj : k ≤ j) : y j = 0 := if_neg (by omega)
  have hin {j : ℕ} (hj : j ∈ range k) : y j = x j := if_pos (Finset.mem_range.1 hj)
  have hy := h y ⟨i, by omega, by rwa [hin (Finset.mem_range.2 hi)]⟩
  rw [sum_range_cut hk fun i hi => by simp [hout hi]] at hy
  refine hy.trans_eq (Finset.sum_congr rfl fun i hi => ?_)
  rw [sum_range_cut hk fun j hj => by simp [hout hj]]
  exact Finset.sum_congr rfl fun j hj => by rw [hin hi, hin hj]

theorem positiveOn_extend {q : Fin n → Fin n → α}
    (hpos : ∀ x : Fin n → α, x ≠ 0 → 0 < ∑ i, ∑ j, x i * q i j * x j) :
    PositiveOn (extend q) n := by
  intro x ⟨i, hi, hx⟩
  have hvalue := hpos (fun i => x i) fun h => hx (congrFun h ⟨i, hi⟩)
  simp only [Finset.sum_range, extend_val]
  exact hvalue

variable [IsStrictOrderedRing α] [Div α] [ExactDivision α]

/-- The part of a row left of the diagonal solves the system of the rows above, and what it leaves of
the diagonal entry is a value of the quadratic form. -/
theorem Factors.pivot_pos (h : Factors a l) (hsym : ∀ i, i < l.length → a i l.length = a l.length i)
    (hpos : PositiveOn a (l.length + 1)) {left : List α}
    (hleft : Solves l ((List.range l.length).map (a l.length)) left) :
    0 < a l.length l.length - ∑ t ∈ range l.length, left.getD t 0 * left.getD t 0 := by
  let v : Fin l.length → α := fun t => left.getD t 0
  let w : Fin l.length → α := Matrix.vecMul v (squareInverse l)
  have hw : Matrix.vecMul w (square l) = v := by
    rw [Matrix.vecMul_vecMul, squareInverse_mul_square h.regular, Matrix.vecMul_one]
  have hv : Matrix.mulVec (square l) v = fun i : Fin l.length => a l.length i := by
    funext i
    have hrow := hleft.2 i i.2
    rw [List.getD_eq_getElem?_getD, List.getElem?_map, List.getElem?_range i.2] at hrow
    simp only [Matrix.mulVec, dotProduct, square, Matrix.of_apply, v]
    rw [Fin.sum_univ_eq_sum_range fun j => entry l i j * left.getD j 0]
    exact hrow
  have hquadratic : ∑ i : Fin l.length, ∑ j : Fin l.length, w i * a i j * w j = v ⬝ᵥ v := by
    have hvalue : w ⬝ᵥ Matrix.mulVec (square l * (square l).transpose) w = v ⬝ᵥ v := by
      rw [← Matrix.mulVec_mulVec, Matrix.dotProduct_mulVec, hw, Matrix.mulVec_transpose, hw]
    rw [h.square_mul_transpose] at hvalue
    rw [← hvalue]
    simp only [dotProduct, Matrix.mulVec, Matrix.of_apply, Finset.mul_sum, mul_assoc]
  have hmixed : ∑ i : Fin l.length, w i * a l.length i = v ⬝ᵥ v := by
    have hvalue : w ⬝ᵥ Matrix.mulVec (square l) v = v ⬝ᵥ v := by
      rw [Matrix.dotProduct_mulVec, hw]
    rw [hv] at hvalue
    exact hvalue
  have hform := hpos (fun i => if h : i < l.length then -w ⟨i, h⟩ else 1)
    ⟨l.length, Nat.lt_succ_self _, by simp⟩
  rw [form_concat hsym w, hquadratic, hmixed] at hform
  have hsquares : ∑ t ∈ range l.length, left.getD t 0 * left.getD t 0 = v ⬝ᵥ v :=
    Finset.sum_range _
  rw [hsquares]
  linarith

/-! ## Substitution is exact -/

variable [PositiveRoot α] [ExactRoot α]

theorem exists_choleskyFrom (hsym : ∀ i j, i < n → j < n → a i j = a j i) (hpos : PositiveOn a n)
    (hl : Factors a l) (m : ℕ) (hm : l.length + m = n) :
    ∃ l', choleskyFrom l ((List.range' l.length m).map (rowAt a)) = some l' ∧ Factors a l' ∧
      l'.length = n := by
  induction m generalizing l with
  | zero => exact ⟨l, rfl, hl, hm⟩
  | succ m ih =>
    have hcolumn (i : ℕ) (hi : i < l.length) : a i l.length = a l.length i :=
      hsym i l.length (by omega) (by omega)
    have hleft := solves_forward hl.regular (b := (List.range l.length).map (a l.length)) (by simp)
    have hpivot := hl.pivot_pos hcolumn (hpos.mono (by omega)) hleft
    have hresidual := residual_eq (Eq.refl (forward l ((List.range l.length).map (a l.length))).length)
      (a l.length l.length)
    rw [hleft.1] at hresidual
    obtain ⟨d, hroot, hd, hdd⟩ := ExactRoot.exists_root _ hpivot
    have hfactors := hl.concat hcolumn hleft hd hdd
    obtain ⟨l', hl', hfactors', hlength⟩ := ih hfactors (by simp; omega)
    refine ⟨l', ?_, hfactors', hlength⟩
    rw [List.length_append, List.length_singleton] at hl'
    rw [List.range'_succ, List.map_cons, choleskyFrom]
    simp only [rowAt, hresidual, hroot]
    exact hl'

theorem exists_cholesky? (q : Fin n → Fin n → α) (hsymm : ∀ i j, q i j = q j i)
    (hpos : ∀ x : Fin n → α, x ≠ 0 → 0 < ∑ i, ∑ j, x i * q i j * x j) :
    ∃ l, cholesky? (.ofFn n n q) = some l ∧ Factors (extend q) l ∧ l.length = n := by
  have hmirror (i j : ℕ) (hi : i < n) (hj : j < n) : extend q i j = extend q j i := by
    have hentry := hsymm ⟨i, hi⟩ ⟨j, hj⟩
    rwa [← extend_val q, ← extend_val q] at hentry
  have hnone : Factors (extend q) [] :=
    ⟨regular_nil, fun _ hrow => absurd hrow List.not_mem_nil,
      fun i _ hi => absurd hi (Nat.not_lt_zero i)⟩
  obtain ⟨l, hl, hfactors, hlength⟩ :=
    exists_choleskyFrom hmirror (positiveOn_extend hpos) hnone n (Nat.zero_add n)
  rw [List.length_nil, ← List.range_eq_range', ← lowerPart_ofFn] at hl
  exact ⟨l, hl, hfactors, hlength⟩

theorem substitution_exact [BEq α] [LawfulBEq α] : (substitution : Routines α).Exact where
  lowerFactor := by
    intro n q hsymm hpos
    obtain ⟨l, hl, hfactors, rfl⟩ := exists_cholesky? q hsymm hpos
    refine ⟨fun i j => entry l i j, ?_, ?_, ?_, ?_⟩
    · simp only [substitution, hl, Option.map_some, toMatrix_eq]
    · intro r c hrc
      exact entry_of_lt hfactors.regular r.2 hrc
    · intro r
      rw [entry_self hfactors.regular r.2]
      exact hfactors.positive _ (List.getElem_mem r.2)
    · have hproduct := hfactors.square_mul_transpose
      simp only [extend_val] at hproduct
      exact hproduct
  solveUpper := exists_backward?

end

/-! ## The reals -/

noncomputable instance : PositiveRoot ℝ where
  root? v := if 0 < v then some √v else none

instance : ExactRoot ℝ where
  exists_root v hv := ⟨√v, if_pos hv, Real.sqrt_pos.2 hv, Real.mul_self_sqrt hv.le⟩

/-! ## The factor over exact routines -/

/-- A symmetric positive definite matrix has an inverse upper factor, and the list the method is
called with holds it column by column. -/
theorem exists_inverseUpperFactor (r : Routines α) (hr : r.Exact) (q : Fin n → Fin n → α)
    (hsymm : ∀ i j, q i j = q j i)
    (hpos : ∀ x : Fin n → α, x ≠ 0 → 0 < ∑ i, ∑ j, x i * q i j * x j) :
    (∃ u : Fin n → Fin n → α,
      r.inverseUpperFactor? (.ofFn n n q) = some (.ofFn n n u) ∧
      (∀ r c, c < r → u r c = 0) ∧
      Matrix.of u * (Matrix.of u).transpose * Matrix.of q = 1 ∧
      (Matrix.ofFn n n u).columnMajor.length = n * n ∧
      ∀ r c : Fin n, (Matrix.ofFn n n u).columnMajor[c * n + r]? = some (u r c)) ∧
    ∀ (B : Factored.Backend) (s : Factored.State) (p : CheckedProblem) (rows : FlatRows)
      (m : Matrix Float),
      (s.callBackend B m p rows).calls = [.solve m.columnMajor p.problem.objVec rows] ∧
      (B.inverseUpperFactor? p.problem.objMat = some m →
        (s.coldSolve B p rows).calls =
          [.factor p.problem.objMat, .solve m.columnMajor p.problem.objVec rows]) := by
  constructor
  · obtain ⟨l, hl, hfactor⟩ := hr.lowerFactor q hsymm hpos
    obtain ⟨u, hu, hproduct⟩ := hr.solveUpper (fun i j => l j i)
      (fun i j => if i = j then 1 else 0) (fun i j hij => hfactor.triangular j i hij)
      (fun i => (hfactor.positive i).ne')
    have hinverse : (Matrix.of l).transpose * Matrix.of u = 1 := hproduct
    refine ⟨u, ?_, fun r c hrc => hfactor.inverse_of_lt hinverse hrc,
      hfactor.mul_transpose_mul_eq_one hinverse, ?_, ?_⟩
    · simp only [Routines.inverseUpperFactor?, hl, Option.bind_eq_bind, Option.bind_some,
        Matrix.transpose_ofFn, Matrix.nrows_ofFn]
      exact hu
    · rw [Matrix.length_columnMajor, Matrix.ncols_ofFn, Matrix.nrows_ofFn]
    · exact Matrix.getElem?_columnMajor_ofFn _
  · intro B s p rows m
    have hcall : (s.callBackend B m p rows).calls = [.solve m.columnMajor p.problem.objVec rows] := by
      unfold Factored.State.callBackend
      simp only [Traced.calls_bind, Traced.calls_call]
      split <;> simp
    refine ⟨hcall, fun hfactor => ?_⟩
    simp [Factored.State.coldSolve, Factored.Backend.factor, hfactor, hcall]

/-- The form is `(2 x + y)² + 2 y²`. -/
theorem exists_inverseUpperFactor_two :
    let q : Fin 2 → Fin 2 → ℝ := ![![4, 2], ![2, 3]]
    (substitution : Routines ℝ).Exact ∧
    (∀ i j, q i j = q j i) ∧
    (∀ x : Fin 2 → ℝ, x ≠ 0 → 0 < ∑ i, ∑ j, x i * q i j * x j) ∧
    ∃ u : Fin 2 → Fin 2 → ℝ,
      substitution.inverseUpperFactor? (.ofFn 2 2 q) = some (.ofFn 2 2 u) ∧
      (∀ r c, c < r → u r c = 0) ∧
      Matrix.of u * (Matrix.of u).transpose * Matrix.of q = 1 ∧
      ∀ r c : Fin 2, (Matrix.ofFn 2 2 u).columnMajor[(c : ℕ) * 2 + r]? = some (u r c) := by
  intro q
  have hsymm : ∀ i j, q i j = q j i := by
    intro i j
    fin_cases i <;> fin_cases j <;> rfl
  have hpos : ∀ x : Fin 2 → ℝ, x ≠ 0 → 0 < ∑ i, ∑ j, x i * q i j * x j := by
    intro x hx
    have hform : ∑ i, ∑ j, x i * q i j * x j = (2 * x 0 + x 1) ^ 2 + 2 * x 1 ^ 2 := by
      simp [Fin.sum_univ_two, q]
      ring
    rw [hform]
    by_cases hlast : x 1 = 0
    · have hfirst : x 0 ≠ 0 := by
        intro h
        apply hx
        funext i
        fin_cases i
        · exact h
        · exact hlast
      have := mul_self_pos.2 hfirst
      rw [hlast]
      linarith
    · have := mul_self_pos.2 hlast
      have := sq_nonneg (2 * x 0 + x 1)
      linarith
  obtain ⟨⟨u, hu, hupper, hproduct, -, hflat⟩, -⟩ :=
    exists_inverseUpperFactor substitution substitution_exact q hsymm hpos
  exact ⟨substitution_exact, hsymm, hpos, u, hu, hupper, hproduct, hflat⟩

end Triangular

end QuadOpt
