import QuadOpt.Proofs.Matrix.Compressed
import QuadOpt.Proofs.Matrix.Flat

/-!
# Quadratic forms of a triangle

The methods are handed the objective as compressed columns, as a packed upper triangle, or as a lower
triangle, and each takes the missing half to mirror the one it has. For a symmetric matrix they all
have the same quadratic form in mind.
-/

namespace QuadOpt

open Finset (range)

/-! ## Four readings -/

/-- How often an entry of a triangle stands in the symmetric matrix. -/
def occurrences (r c : ℕ) : ℕ := if r = c then 1 else 2

/-- The form of a matrix, entry by entry. -/
noncomputable def Matrix.form (m : Matrix Float) (x : ℕ → ℝ) : ℝ :=
  ∑ r : Fin m.nrows, ∑ c : Fin m.ncols, coefficient (m.entry r c) * (x r * x c)

/-- The form of the symmetric matrix whose upper triangle is stored. -/
noncomputable def Csc.form (s : Csc Float) (x : ℕ → ℝ) : ℝ :=
  (s.triples.map fun (r, c, v) => occurrences r c * (coefficient v * (x r * x c))).sum

/-- The form of the symmetric matrix of size `n` whose upper triangle is packed: column `c` has
`c + 1` entries, and `c * (c + 1) / 2` stand before it. -/
noncomputable def Conic.form (n : ℕ) (packed : List Float) (x : ℕ → ℝ) : ℝ :=
  ∑ c ∈ range n, ∑ r ∈ range (c + 1),
    occurrences r c * (coefficient (packed.getD (c * (c + 1) / 2 + r) 0) * (x r * x c))

/-- The share of row `i` of a lower triangle: each entry left of the diagonal with its mirror image,
and the one on the diagonal. -/
noncomputable def Triangular.Row.form (row : Triangular.Row Float) (i : ℕ) (x : ℕ → ℝ) : ℝ :=
  (∑ j : Fin row.left.length,
    (coefficient row.left[j] * (x i * x j) + coefficient row.left[j] * (x j * x i))) +
    coefficient row.diagonal * (x i * x i)

/-- The form of the symmetric matrix with the given lower triangle. -/
noncomputable def Triangular.form (rows : List (Triangular.Row Float)) (x : ℕ → ℝ) : ℝ :=
  ∑ i : Fin rows.length, rows[i].form i x

/-! ## Sums over a triangle -/

theorem coefficient_eq_toReal_bound (v : Float) : coefficient v = (bound v).toReal := by
  unfold coefficient bound
  rcases Binary64.ofFloat v with _ | ⟨_ | _⟩ | ⟨_, _, _⟩ <;> rfl

theorem coefficient_eq_of_beq {v w : Float} (h : (v == w) = true) :
    coefficient v = coefficient w := by
  have hvalue : bound v = bound w := Binary64.value_eq_of_beq h
  rw [coefficient_eq_toReal_bound, coefficient_eq_toReal_bound, hvalue]

theorem sum_range_ite_le (f : ℕ → ℝ) {c n : ℕ} (h : c < n) :
    ∑ r ∈ range n, (if r ≤ c then f r else 0) = ∑ r ∈ range (c + 1), f r := by
  rw [← Finset.sum_filter]
  congr 1
  ext r
  simp only [Finset.mem_filter, Finset.mem_range]
  omega

theorem sum_square_eq_sum_triangle (f : ℕ → ℕ → ℝ) (hsymm : ∀ r c, f r c = f c r) (n : ℕ) :
    ∑ r ∈ range n, ∑ c ∈ range n, f r c =
      ∑ c ∈ range n, ∑ r ∈ range (c + 1), occurrences r c * f r c := by
  induction n with
  | zero => simp
  | succ n ih =>
    -- The new column and the new row are the same but for the corner.
    have hcolumn : ∑ r ∈ range n, occurrences r n * f r n = 2 * ∑ r ∈ range n, f r n := by
      rw [Finset.mul_sum]
      refine Finset.sum_congr rfl fun r hr => ?_
      rw [occurrences, if_neg (Finset.mem_range.1 hr).ne, Nat.cast_two]
    have hrow : ∑ c ∈ range n, f n c = ∑ r ∈ range n, f r n :=
      Finset.sum_congr rfl fun c _ => hsymm n c
    have hcorner : (occurrences n n : ℝ) = 1 := by rw [occurrences, if_pos rfl, Nat.cast_one]
    rw [Finset.sum_range_succ _ n, Finset.sum_range_succ (f n) n, Finset.sum_range_succ _ n,
      Finset.sum_range_succ _ n, ← ih, hcolumn, hrow, hcorner]
    simp only [Finset.sum_range_succ, Finset.sum_add_distrib]
    ring

namespace Matrix

/-- The entry as a number, and zero where there is none. -/
noncomputable def coefficientAt (m : Matrix Float) (r c : ℕ) : ℝ :=
  if h : r < m.nrows ∧ c < m.ncols then coefficient (m.entry ⟨r, h.1⟩ ⟨c, h.2⟩) else 0

theorem coefficientAt_of_hasEntry {m : Matrix Float} {r c : ℕ} {v : Float}
    (h : m.HasEntry r c v) : m.coefficientAt r c = coefficient v := by
  obtain ⟨hr, hc, rfl⟩ := h
  exact dif_pos ⟨hr, hc⟩

theorem coefficientAt_entry (m : Matrix Float) (r : Fin m.nrows) (c : Fin m.ncols) :
    m.coefficientAt r c = coefficient (m.entry r c) :=
  coefficientAt_of_hasEntry ⟨r.2, c.2, rfl⟩

noncomputable def upperForm (m : Matrix Float) (x : ℕ → ℝ) : ℝ :=
  ∑ c ∈ range m.ncols, ∑ r ∈ range (c + 1), occurrences r c * (m.coefficientAt r c * (x r * x c))

/-- Square, and equal as numbers to its mirror image. -/
def Symmetric (m : Matrix Float) : Prop := m.EqualEntries m.transpose

theorem Symmetric.nrows_eq {m : Matrix Float} (h : m.Symmetric) : m.nrows = m.ncols :=
  h.nrows.trans m.nrows_transpose

theorem Symmetric.coefficientAt_comm {m : Matrix Float} (h : m.Symmetric) (r c : ℕ) :
    m.coefficientAt r c = m.coefficientAt c r := by
  have hsquare := h.nrows_eq
  by_cases hin : r < m.nrows ∧ c < m.ncols
  · obtain ⟨hr, hc⟩ := hin
    have hr' : r < m.ncols := by omega
    have hc' : c < m.nrows := by omega
    have hrows : r < m.transpose.nrows := by rwa [nrows_transpose]
    have hcols : c < m.transpose.ncols := hc'
    have hentry := h.entry r c hr hc hrows hcols
    rw [m.entry_transpose hc' hr'] at hentry
    rw [coefficientAt_of_hasEntry ⟨hr, hc, rfl⟩, coefficientAt_of_hasEntry ⟨hc', hr', rfl⟩]
    exact coefficient_eq_of_beq hentry
  · have hout : ¬ (c < m.nrows ∧ r < m.ncols) := by omega
    rw [coefficientAt, coefficientAt, dif_neg hin, dif_neg hout]

theorem form_eq_sum_range (m : Matrix Float) (x : ℕ → ℝ) :
    m.form x = ∑ r ∈ range m.nrows, ∑ c ∈ range m.ncols, m.coefficientAt r c * (x r * x c) := by
  simp only [form, Finset.sum_range, coefficientAt_entry]

/-- For a symmetric matrix nothing is lost by reading one triangle. -/
theorem Symmetric.form_eq_upperForm {m : Matrix Float} (h : m.Symmetric) (x : ℕ → ℝ) :
    m.form x = m.upperForm x := by
  rw [form_eq_sum_range, upperForm, h.nrows_eq]
  apply sum_square_eq_sum_triangle
  intro r c
  rw [h.coefficientAt_comm r c, mul_comm (x r)]

end Matrix

/-! ## Compressed columns -/

namespace Csc

theorem sum_map_filterMap_ite {α β : Type} (p : α → Bool) (f : α → β) (g : β → ℝ) (l : List α) :
    ((l.filterMap fun a => if p a then some (f a) else none).map g).sum =
      (l.map fun a => if p a then g (f a) else 0).sum := by
  induction l with
  | nil => rfl
  | cons a l ih =>
    cases hp : p a <;> simp [hp, ih]

theorem column_eq_map_finRange {α : Type} (m : Matrix α) (c : Fin m.ncols) :
    m.column c = (List.finRange m.nrows).map fun r => m.entry r c := by
  refine List.ext_getElem (by simp) fun r hr _ => ?_
  rw [m.getElem_column c hr, List.getElem_map, List.getElem_finRange]
  rfl

theorem sum_triples_ofMatrix (t : Triangle) (m : Matrix Float) (g : ℕ → ℕ → Float → ℝ) :
    ((ofMatrix t m).triples.map fun (r, c, v) => g r c v).sum =
      ∑ c : Fin m.ncols, ∑ r : Fin m.nrows,
        if (t.covers r c && m.entry r c != 0) = true then g r c (m.entry r c) else 0 := by
  have hcolumn (c : Fin m.ncols) : ((storedColumn t m c).map fun (r, v) => g r c v).sum =
      ∑ r : Fin m.nrows,
        if (t.covers r c && m.entry r c != 0) = true then g r c (m.entry r c) else 0 := by
    rw [storedColumn, column_eq_map_finRange, zipIdx_map_finRange, sum_map_filterMap_ite,
      List.map_map, Fin.sum_univ_def]
    rfl
  rw [triples_ofMatrix_eq_flatMap, List.map_flatMap, List.flatMap_def, List.sum_flatten,
    List.map_map, Fin.sum_univ_def]
  simp only [← hcolumn, List.map_map, Function.comp_def]

theorem form_ofMatrix_upper {m : Matrix Float} (hsquare : m.nrows = m.ncols) (x : ℕ → ℝ) :
    (ofMatrix .upper m).form x = m.upperForm x := by
  have hentry (r : Fin m.nrows) (c : Fin m.ncols) :
      (if (Triangle.upper.covers r c && m.entry r c != 0) = true then
        occurrences r c * (coefficient (m.entry r c) * (x r * x c)) else 0) =
      if r.1 ≤ c.1 then occurrences r c * (m.coefficientAt r c * (x r * x c)) else 0 := by
    rw [m.coefficientAt_entry]
    by_cases hle : r.1 ≤ c.1
    · cases hzero : m.entry r c == 0 with
      | true =>
        -- What is dropped has no share in the form.
        have hcoefficient := (coefficient_eq_of_beq hzero).trans coefficient_zero
        simp [hcoefficient]
      | false => simp [Triangle.covers, hle, bne, hzero]
    · simp [Triangle.covers, hle]
  rw [form, sum_triples_ofMatrix .upper m fun r c v =>
    occurrences r c * (coefficient v * (x r * x c))]
  simp only [hentry]
  rw [Matrix.upperForm, Finset.sum_range]
  refine Finset.sum_congr rfl fun c _ => ?_
  have hc : c.1 < m.nrows := by
    rw [hsquare]
    exact c.2
  rw [← sum_range_ite_le _ hc, Finset.sum_range]

end Csc

/-! ## The packed triangle -/

namespace Conic

theorem getElem?_upperColumns {α : Type} (m : Matrix α) {c : ℕ} (hc : c < m.ncols) :
    m.upperColumns[c]? = some ((m.column ⟨c, hc⟩).take (c + 1)) := by
  simp [Matrix.upperColumns, hc]

theorem take_succ_lengths_upperColumns {α : Type} {m : Matrix α} (hsquare : m.nrows = m.ncols)
    {c : ℕ} (hc : c < m.ncols) :
    (m.upperColumns.map (·.length)).take (c + 1) =
      (m.upperColumns.map (·.length)).take c ++ [c + 1] := by
  have hlength : ((m.column ⟨c, hc⟩).take (c + 1)).length = c + 1 := by
    rw [List.length_take, m.length_column]
    omega
  rw [List.take_add_one, List.getElem?_map, getElem?_upperColumns m hc, Option.map_some, hlength]
  rfl

/-- So many entries stand before column `c`. -/
theorem sum_lengths_upperColumns {α : Type} {m : Matrix α} (hsquare : m.nrows = m.ncols) {c : ℕ}
    (hc : c ≤ m.ncols) :
    ((m.upperColumns.map (·.length)).take c).sum = c * (c + 1) / 2 := by
  induction c with
  | zero => rfl
  | succ c ih =>
    have hhalf : (c + 1) * (c + 1 + 1) / 2 = c * (c + 1) / 2 + (c + 1) := by
      rw [← Nat.add_mul_div_left _ _ Nat.zero_lt_two]
      congr 1
      ring
    rw [take_succ_lengths_upperColumns hsquare hc, List.sum_append, ih (by omega), hhalf]
    rfl

theorem getElem?_packedUpper {α : Type} {m : Matrix α} (hsquare : m.nrows = m.ncols) {r c : ℕ}
    (hr : r < m.nrows) (hc : c < m.ncols) (hle : r ≤ c) :
    m.packedUpper[c * (c + 1) / 2 + r]? = some (m.entry ⟨r, hr⟩ ⟨c, hc⟩) := by
  have hin : c < m.upperColumns.length := by simpa [Matrix.upperColumns] using hc
  -- Column `c` is what stands between the columns before it and the columns after it.
  have hslice := List.drop_take_succ_flatten_eq_getElem m.upperColumns c hin
  rw [take_succ_lengths_upperColumns hsquare hc, List.sum_append,
    sum_lengths_upperColumns hsquare hc.le, ← m.packedUpper_eq] at hslice
  have hcolumn : m.upperColumns[c] = (m.column ⟨c, hc⟩).take (c + 1) :=
    List.getElem_eq_iff hin |>.2 (getElem?_upperColumns m hc)
  have hplace := congrArg (·[r]?) (hslice.trans hcolumn)
  have hentry : (m.column ⟨c, hc⟩)[r]? = some (m.entry ⟨r, hr⟩ ⟨c, hc⟩) := by
    rw [List.getElem?_eq_getElem (by simpa using hr), m.getElem_column]
  simp only [List.getElem?_drop] at hplace
  rw [List.getElem?_take_of_lt (by simp; omega), List.getElem?_take_of_lt (by omega), hentry]
    at hplace
  exact hplace

theorem form_packedUpper {m : Matrix Float} (hsquare : m.nrows = m.ncols) (x : ℕ → ℝ) :
    Conic.form m.ncols m.packedUpper x = m.upperForm x := by
  unfold Conic.form Matrix.upperForm
  refine Finset.sum_congr rfl fun c hc => Finset.sum_congr rfl fun r hr => ?_
  rw [Finset.mem_range] at hc hr
  have hr' : r < m.nrows := by omega
  have hentry := getElem?_packedUpper hsquare hr' hc (by omega)
  rw [List.getD_eq_getElem?_getD, hentry, Matrix.coefficientAt_of_hasEntry ⟨hr', hc, rfl⟩]
  rfl

end Conic

/-! ## The lower triangle -/

namespace Triangular

def rowOf {α : Type} {m : Matrix α} (hsquare : m.nrows = m.ncols) (i : Fin m.nrows) : Row α where
  left := List.ofFn fun j : Fin i.1 => m.entry i (j.castLE (hsquare ▸ i.2.le))
  diagonal := m.entry i (i.cast hsquare)

theorem getElem_left_rowOf {α : Type} {m : Matrix α} (hsquare : m.nrows = m.ncols)
    {i : Fin m.nrows} {j : ℕ} (hj : j < (rowOf hsquare i).left.length) (hc : j < m.ncols) :
    (rowOf hsquare i).left[j] = m.entry i ⟨j, hc⟩ := by
  simp [rowOf]

theorem lowerPart_eq {α : Type} {m : Matrix α} (hsquare : m.nrows = m.ncols) :
    lowerPart m = (List.finRange m.nrows).map (rowOf hsquare) := by
  have hrows : m.toLists = (List.finRange m.nrows).map fun i => List.ofFn (m.entry i) := by
    refine List.ext_getElem (by simp) fun i hi _ => List.ext_getElem ?_ fun c hc _ => ?_
    · simp [m.length_getElem_toLists hi]
    · simp [m.getElem_getElem_toLists hi hc]
  have htake (i : Fin m.nrows) : (List.ofFn (m.entry i)).take i = (rowOf hsquare i).left := by
    refine List.ext_getElem ?_ fun j _ hj => ?_
    · simp [rowOf]
      omega
    · simp [rowOf]
  rw [lowerPart, hrows, Csc.zipIdx_map_finRange, List.filterMap_map, ← List.filterMap_eq_map]
  congr 1
  funext i
  have hi : i.1 < m.ncols := hsquare ▸ i.2
  simp only [Function.comp_apply, htake]
  simp [hi]
  rfl

theorem form_rowOf {m : Matrix Float} (hsquare : m.nrows = m.ncols) (i : Fin m.nrows)
    (x : ℕ → ℝ) :
    (rowOf hsquare i).form i x =
      ∑ j ∈ range (i + 1), occurrences j i * (m.coefficientAt i j * (x i * x j)) := by
  have hi : i.1 < m.ncols := hsquare ▸ i.2
  have hlength : (rowOf hsquare i).left.length = i := by simp [rowOf]
  have hleft : ∑ j : Fin (rowOf hsquare i).left.length,
        (coefficient (rowOf hsquare i).left[j] * (x i * x j) +
          coefficient (rowOf hsquare i).left[j] * (x j * x i)) =
      ∑ j ∈ range i, occurrences j i * (m.coefficientAt i j * (x i * x j)) := by
    rw [Finset.sum_range]
    refine Fintype.sum_equiv (finCongr hlength) _ _ fun j => ?_
    have hj : j.1 < i.1 := hlength ▸ j.2
    have hentry : m.HasEntry i j (rowOf hsquare i).left[j] :=
      ⟨i.2, hj.trans hi, (getElem_left_rowOf hsquare j.2 (hj.trans hi)).symm⟩
    rw [← Matrix.coefficientAt_of_hasEntry hentry, occurrences]
    simp [hj.ne]
    ring
  have hdiagonal : m.coefficientAt i i = coefficient (rowOf hsquare i).diagonal :=
    Matrix.coefficientAt_of_hasEntry ⟨i.2, hi, rfl⟩
  rw [Row.form, hleft, Finset.sum_range_succ, hdiagonal, occurrences, if_pos rfl, Nat.cast_one,
    one_mul]

theorem form_map_finRange {n : ℕ} (row : Fin n → Row Float) (x : ℕ → ℝ) :
    form ((List.finRange n).map row) x = ∑ i : Fin n, (row i).form i x := by
  refine Fintype.sum_equiv (finCongr (by simp)) _ _ fun i => ?_
  simp
  rfl

theorem form_lowerPart {m : Matrix Float} (h : m.Symmetric) (x : ℕ → ℝ) :
    form (lowerPart m) x = m.upperForm x := by
  have hsquare := h.nrows_eq
  have hmirror (i j : ℕ) : occurrences j i * (m.coefficientAt i j * (x i * x j)) =
      occurrences j i * (m.coefficientAt j i * (x j * x i)) := by
    rw [h.coefficientAt_comm i j, mul_comm (x i)]
  rw [lowerPart_eq hsquare, form_map_finRange, Matrix.upperForm, ← hsquare, Finset.sum_range]
  simp only [form_rowOf, hmirror]

end Triangular

/-! ## One objective -/

namespace Matrix

/-- Whichever way the objective is handed over, it is that of the problem. -/
theorem quadratic_forms_agree (m : Matrix Float) (h : m.Symmetric) (x : ℕ → ℝ) :
    (Csc.ofMatrix .upper m).form x = m.form x ∧
      Conic.form m.ncols m.packedUpper x = m.form x ∧
      Triangular.form (Triangular.lowerPart m) x = m.form x ∧
      ∀ p : CheckedProblem, p.problem.objMat = m →
        (∀ T, (Workspace.dataOf T p).objective.form x = m.form x) ∧
          Conic.form p.dims.var (Conic.dataOf p).objective x = m.form x := by
  have hstored : (Csc.ofMatrix .upper m).form x = m.form x := by
    rw [Csc.form_ofMatrix_upper h.nrows_eq, h.form_eq_upperForm]
  have hpacked : Conic.form m.ncols m.packedUpper x = m.form x := by
    rw [Conic.form_packedUpper h.nrows_eq, h.form_eq_upperForm]
  have hlower : Triangular.form (Triangular.lowerPart m) x = m.form x := by
    rw [Triangular.form_lowerPart h, h.form_eq_upperForm]
  refine ⟨hstored, hpacked, hlower, ?_⟩
  rintro p rfl
  refine ⟨fun T => hstored, ?_⟩
  have hvar : p.problem.objMat.ncols = p.dims.var := p.objMat_shape.2
  rw [← hvar]
  exact hpacked

/-- A zero and a negative zero mirror each other. -/
def mirrored : Matrix Float := .ofLists 3 [[2, -0.0, -1], [0, 3, 0], [-1, 0, 4]]

theorem quadratic_forms_agree_mirrored :
    mirrored.Symmetric ∧ mirrored.packedUpper = [2, -0.0, 3, -1, 0, 4] ∧
      (Csc.ofMatrix .upper mirrored).triples = [(0, 0, 2), (1, 1, 3), (0, 2, -1), (2, 2, 4)] ∧
      ∀ x, (Csc.ofMatrix .upper mirrored).form x = mirrored.form x ∧
        Conic.form 3 [2, -0.0, 3, -1, 0, 4] x = mirrored.form x ∧
        Triangular.form (Triangular.lowerPart mirrored) x = mirrored.form x := by
  have hsymm : mirrored.Symmetric := (sameValues_iff _ _).1 (by decide +kernel)
  have hpacked : mirrored.packedUpper = [2, -0.0, 3, -1, 0, 4] := by decide +kernel
  refine ⟨hsymm, hpacked, by decide +kernel, fun x => ?_⟩
  obtain ⟨hstored, hform, hlower, -⟩ := quadratic_forms_agree mirrored hsymm x
  rw [hpacked] at hform
  exact ⟨hstored, hform, hlower⟩

end Matrix

end QuadOpt
