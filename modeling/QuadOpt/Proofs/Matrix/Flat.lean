import Mathlib
import QuadOpt.Matrix.Stack
import QuadOpt.Proofs.Matrix.Compressed

/-!
# Where an entry is stored

Written out row by row, a matrix has the entry of row `r` and column `c` at place `r * ncols + c`;
column by column, at place `c * nrows + r`. Mirrored, it has the one order where it had the other.
-/

namespace QuadOpt.Matrix

variable {α : Type}

/-! ## Rows as lists -/

theorem eq_of_toLists_eq {m n : Matrix α} (hcols : m.ncols = n.ncols) (h : m.toLists = n.toLists) :
    m = n := by
  obtain ⟨cols, rows⟩ := m
  obtain ⟨cols', rows'⟩ := n
  obtain rfl : cols = cols' := hcols
  have hrows : rows = rows' :=
    List.map_injective_iff.2 (fun v w hvw => Vector.toList_inj.1 hvw) h
  rw [hrows]

theorem nrows_transpose (m : Matrix α) : m.transpose.nrows = m.ncols := by
  simp [transpose, nrows]

theorem entry_transpose (m : Matrix α) {r c : ℕ} (hr : r < m.nrows) (hc : c < m.ncols)
    (hc' : c < m.transpose.nrows) (hr' : r < m.transpose.ncols) :
    m.transpose.entry ⟨c, hc'⟩ ⟨r, hr'⟩ = m.entry ⟨r, hr⟩ ⟨c, hc⟩ := by
  show m.transpose.rows[c][r] = _
  simp [transpose, column, entry]

theorem ext_entry {m n : Matrix α} (hrows : m.nrows = n.nrows) (hcols : m.ncols = n.ncols)
    (h : ∀ r c (hr : r < m.nrows) (hc : c < m.ncols) (hr' : r < n.nrows) (hc' : c < n.ncols),
      m.entry ⟨r, hr⟩ ⟨c, hc⟩ = n.entry ⟨r, hr'⟩ ⟨c, hc'⟩) : m = n := by
  refine eq_of_toLists_eq hcols (List.ext_getElem ?_ fun r hr hr' => ?_)
  · rw [length_toLists, length_toLists, hrows]
  · refine List.ext_getElem ?_ fun c hc hc' => ?_
    · rw [length_getElem_toLists, length_getElem_toLists, hcols]
    · rw [getElem_getElem_toLists, getElem_getElem_toLists]
      exact h r c _ _ _ _

theorem transpose_transpose (m : Matrix α) : m.transpose.transpose = m := by
  refine ext_entry m.transpose.nrows_transpose m.nrows_transpose fun r c hr hc hr' hc' => ?_
  have hcols : c < m.transpose.nrows := m.nrows_transpose.symm ▸ hc'
  rw [m.transpose.entry_transpose hcols hr']
  exact m.entry_transpose hr' hc' hcols hr'

theorem transpose_ofFn {nrows ncols : ℕ} (f : Fin nrows → Fin ncols → α) :
    (ofFn nrows ncols f).transpose = ofFn ncols nrows fun c r => f r c := by
  refine ext_entry ?_ (nrows_ofFn ..) fun c r hc hr hc' hr' => ?_
  · rw [nrows_transpose, ncols_ofFn, nrows_ofFn]
  · have hcols : c < ncols := by simpa using hc'
    calc
      (ofFn nrows ncols f).transpose.entry ⟨c, hc⟩ ⟨r, hr⟩
          = (ofFn nrows ncols f).entry ⟨r, hr⟩ ⟨c, hcols⟩ := entry_transpose _ hr hcols hc hr
      _ = f ⟨r, hr'⟩ ⟨c, hcols⟩ := entry_ofFn f hr' hcols hr hcols
      _ = (ofFn ncols nrows fun c r => f r c).entry ⟨c, hc'⟩ ⟨r, hr'⟩ :=
        (entry_ofFn (fun c r => f r c) hcols hr' hc' hr').symm

theorem map_column_ofFn {β : Type} {nrows ncols : ℕ} (f : Fin nrows → Fin ncols → α)
    (g : List α → β) :
    (List.finRange (ofFn nrows ncols f).ncols).map (fun c => g ((ofFn nrows ncols f).column c)) =
      (List.finRange ncols).map fun c => g (List.ofFn fun r => f r c) := by
  refine List.map_congr_left fun c _ => congrArg g ?_
  unfold column ofFn
  rw [List.map_ofFn]
  congr 1
  funext r
  exact Vector.getElem_ofFn c.2

/-! ## Places -/

theorem length_rowMajor (m : Matrix α) : m.rowMajor.length = m.nrows * m.ncols := by
  unfold rowMajor nrows
  induction m.rows with
  | nil => simp
  | cons row rows ih =>
    simp only [List.flatMap_cons, List.length_append, ih, Vector.length_toList, List.length_cons]
    ring

theorem getElem?_flatMap_toList {n : ℕ} (rows : List (Vector α n)) {r c : ℕ} (hr : r < rows.length)
    (hc : c < n) : (rows.flatMap (·.toList))[r * n + c]? = some rows[r][c] := by
  induction rows generalizing r with
  | nil => simp at hr
  | cons row rows ih =>
    rw [List.flatMap_cons]
    cases r with
    | zero =>
      rw [Nat.zero_mul, Nat.zero_add, List.getElem?_append_left (by simpa using hc)]
      simp [hc]
    | succ r =>
      have hplace : (r + 1) * n + c = n + (r * n + c) := by ring
      rw [hplace, getElem?_append_add row.length_toList, ih (Nat.lt_of_succ_lt_succ hr),
        List.getElem_cons_succ]

theorem getElem?_rowMajor (m : Matrix α) (r : Fin m.nrows) (c : Fin m.ncols) :
    m.rowMajor[r * m.ncols + c]? = some (m.entry r c) :=
  getElem?_flatMap_toList m.rows r.2 c.2

theorem getElem?_columnMajor (m : Matrix α) (r : Fin m.nrows) (c : Fin m.ncols) :
    m.columnMajor[c * m.nrows + r]? = some (m.entry r c) := by
  have hc : c < m.transpose.nrows := m.nrows_transpose.symm ▸ c.2
  rw [← m.entry_transpose r.2 c.2 hc r.2]
  exact m.transpose.getElem?_rowMajor ⟨c, hc⟩ r

theorem length_columnMajor (m : Matrix α) : m.columnMajor.length = m.ncols * m.nrows := by
  unfold columnMajor
  rw [length_rowMajor, nrows_transpose]
  rfl

/-- The two orders of storage are turned into each other by turning the matrix. -/
theorem columnMajor_transpose (m : Matrix α) : m.transpose.columnMajor = m.rowMajor := by
  rw [columnMajor, transpose_transpose]

theorem getElem?_columnMajor_ofFn {nrows ncols : ℕ} (f : Fin nrows → Fin ncols → α) (r : Fin nrows)
    (c : Fin ncols) : (ofFn nrows ncols f).columnMajor[c * nrows + r]? = some (f r c) := by
  have hr : r < (ofFn nrows ncols f).nrows := by simp
  have hentry : (ofFn nrows ncols f).entry ⟨r, hr⟩ c = f r c := entry_ofFn f r.2 c.2 hr c.2
  have hplace := (ofFn nrows ncols f).getElem?_columnMajor ⟨r, hr⟩ c
  rw [hentry] at hplace
  simpa only [nrows_ofFn] using hplace

end QuadOpt.Matrix
