import QuadOpt.Adapter.Conic
import QuadOpt.Matrix.Sparse

/-!
# The upper triangle

What is stored or packed of an upper triangle is made from the tops of the columns, each down to the
diagonal. Below it a matrix may hold anything.
-/

namespace QuadOpt

namespace Matrix

variable {α : Type}

/-- Same shape, and the same entries on the diagonal and above it. -/
structure SameUpper (a b : Matrix α) : Prop where
  nrows : a.nrows = b.nrows
  ncols : a.ncols = b.ncols
  entry : ∀ r c (hr : r < a.nrows) (hc : c < a.ncols) (hr' : r < b.nrows) (hc' : c < b.ncols),
    r ≤ c → a.entry ⟨r, hr⟩ ⟨c, hc⟩ = b.entry ⟨r, hr'⟩ ⟨c, hc'⟩

def upperColumns (m : Matrix α) : List (List α) :=
  (List.finRange m.ncols).map fun c => (m.column c).take (c + 1)

theorem packedUpper_eq (m : Matrix α) : m.packedUpper = m.upperColumns.flatten := by
  rw [packedUpper, upperColumns, List.flatMap_def]

theorem getElem_column (m : Matrix α) (c : Fin m.ncols) {r : Nat} (hr : r < (m.column c).length) :
    (m.column c)[r] = m.entry ⟨r, m.length_column c ▸ hr⟩ c := by
  simp [column, entry]

theorem SameUpper.upperColumns_eq {a b : Matrix α} (h : a.SameUpper b) :
    a.upperColumns = b.upperColumns := by
  unfold upperColumns
  apply List.ext_getElem
  · simp [h.ncols]
  intro c hc hc'
  simp only [List.getElem_map, List.getElem_finRange]
  apply List.ext_getElem
  · simp [h.nrows]
  intro r hr hr'
  have hle : r ≤ c := by
    simp at hr
    omega
  simp only [List.getElem_take, getElem_column]
  exact h.entry r c _ _ _ _ hle

theorem SameUpper.packedUpper_eq {a b : Matrix α} (h : a.SameUpper b) :
    a.packedUpper = b.packedUpper := by
  rw [Matrix.packedUpper_eq, Matrix.packedUpper_eq, h.upperColumns_eq]

end Matrix

namespace Csc

variable {α : Type} [BEq α] [OfNat α 0]

/-- The nonzero entries of a column with their rows, the first of which is `start`. -/
def nonzeroEntries (start : Nat) : List α → List (Nat × α)
  | [] => []
  | v :: column =>
    if v != 0 then (start, v) :: nonzeroEntries (start + 1) column
    else nonzeroEntries (start + 1) column

/-- Going down a column, the rows beyond the diagonal are left out one by one. -/
theorem filterMap_covers_upper (c start : Nat) (column : List α) :
    (column.zipIdx start).filterMap
        (fun (v, r) => if Triangle.upper.covers r c && v != 0 then some (r, v) else none) =
      nonzeroEntries start (column.take (c + 1 - start)) := by
  induction column generalizing start with
  | nil => simp [nonzeroEntries]
  | cons v column ih =>
    rw [List.zipIdx_cons, List.filterMap_cons, ih]
    by_cases hle : start ≤ c
    · have htake : c + 1 - start = (c + 1 - (start + 1)) + 1 := by omega
      rw [htake, List.take_succ_cons, nonzeroEntries]
      cases hv : v != 0 <;> simp [Triangle.covers, hle, hv]
    · have htake : c + 1 - start = 0 := by omega
      have hnext : c + 1 - (start + 1) = 0 := by omega
      rw [htake, hnext]
      simp [Triangle.covers, hle, nonzeroEntries]

theorem storedColumn_upper (m : Matrix α) (c : Fin m.ncols) :
    storedColumn .upper m c = nonzeroEntries 0 ((m.column c).take (c + 1)) :=
  filterMap_covers_upper c 0 (m.column c)

theorem storedColumns_upper (m : Matrix α) :
    storedColumns .upper m = m.upperColumns.map (nonzeroEntries 0) := by
  rw [storedColumns, Matrix.upperColumns, List.map_map]
  exact List.map_congr_left fun c _ => storedColumn_upper m c

theorem ofMatrix_upper_eq {a b : Matrix α} (h : a.SameUpper b) :
    ofMatrix .upper a = ofMatrix .upper b := by
  simp only [ofMatrix, storedColumns_upper, h.upperColumns_eq, h.nrows, h.ncols]

end Csc

end QuadOpt
