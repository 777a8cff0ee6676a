import Mathlib.Data.List.Sort
import QuadOpt.Matrix.Sparse

/-!
# Stored positions

A compressed matrix stores some positions. Made from a dense one it lists them column by column, and
from top to bottom in each column. So two of them have the same column pointers and rows just if
they store the same positions of the same shape.
-/

namespace QuadOpt.Csc

variable {α : Type}

/-- A value is stored for row `r` and column `c`. -/
def Stores (s : Csc α) (r c : Nat) : Prop := ∃ v, (r, c, v) ∈ s.triples

/-- Same shape, and the same positions stored. -/
structure SamePositions (a b : Csc α) : Prop where
  nrows : a.nrows = b.nrows
  ncols : a.ncols = b.ncols
  stores : ∀ r c, a.Stores r c ↔ b.Stores r c

theorem samePattern_iff (a b : Csc α) :
    a.samePattern b = true ↔
      a.nrows = b.nrows ∧ a.ncols = b.ncols ∧ a.colptr = b.colptr ∧ a.rowval = b.rowval := by
  simp [samePattern, and_assoc]

@[simp] theorem samePattern_self (a : Csc α) : a.samePattern a = true := by
  simp [samePattern_iff]

theorem samePattern_symm {a b : Csc α} (h : a.samePattern b = true) : b.samePattern a = true := by
  simp_all [samePattern_iff]

theorem samePattern_trans {a b c : Csc α} (hab : a.samePattern b = true)
    (hbc : b.samePattern c = true) : a.samePattern c = true := by
  simp_all [samePattern_iff]

/-! ## Columns and their offsets -/

theorem offsets_eq_cons (start : Nat) (ns : List Nat) :
    offsets start ns = start :: (offsets start ns).tail := by
  cases ns <;> rfl

theorem offsets_injective {start : Nat} {ns ms : List Nat}
    (h : offsets start ns = offsets start ms) : ns = ms := by
  induction ns generalizing start ms with
  | nil =>
    have hlen := congrArg List.length h
    rw [length_offsets, length_offsets] at hlen
    exact (List.eq_nil_of_length_eq_zero (by simpa using hlen.symm)).symm
  | cons n ns ih =>
    cases ms with
    | nil =>
      have hlen := congrArg List.length h
      simp [length_offsets] at hlen
    | cons m ms =>
      have htail : offsets (start + n) ns = offsets (start + m) ms := (List.cons.inj h).2
      have hhead : start + n = start + m := by
        rw [offsets_eq_cons, offsets_eq_cons _ ms] at htail
        exact (List.cons.inj htail).1
      obtain rfl : n = m := by omega
      rw [ih htail]

/-- Between two offsets stands the column. -/
theorem map_slice_offsets {β : Type} (before : List β) (columns : List (List β)) :
    let ends := offsets before.length (columns.map (·.length))
    (ends.zip ends.tail).map (fun (start, stop) =>
      ((before ++ columns.flatten).take stop).drop start) = columns := by
  induction columns generalizing before with
  | nil => rfl
  | cons column columns ih =>
    have hspan : ((before ++ (column ++ columns.flatten)).take
        (before.length + column.length)).drop before.length = column := by
      rw [← List.append_assoc, ← List.length_append, List.take_left, List.drop_left]
    have hrest := ih (before ++ column)
    simp only [List.length_append, List.append_assoc] at hrest
    simp only [List.map_cons, offsets, List.tail_cons, List.flatten_cons]
    rw [offsets_eq_cons, List.zip_cons_cons, List.map_cons, hspan, ← offsets_eq_cons, hrest]

/-! ## Matrices made from dense ones -/

variable [BEq α] [OfNat α 0]

theorem triples_ofMatrix (t : Triangle) (m : Matrix α) :
    (ofMatrix t m).triples =
      (storedColumns t m).zipIdx.flatMap fun (column, c) => column.map fun (r, v) => (r, c, v) := by
  have hzip : ((storedColumns t m).flatMap (·.map (·.1))).zip
      ((storedColumns t m).flatMap (·.map (·.2))) = (storedColumns t m).flatten := by
    rw [List.flatMap_def, List.flatMap_def, ← List.map_flatten, ← List.map_flatten,
      ← List.unzip_fst, ← List.unzip_snd, List.zip_unzip]
  have hspans := map_slice_offsets [] (storedColumns t m)
  simp only [List.nil_append, List.length_nil] at hspans
  simp only [triples, ofMatrix, hzip]
  conv_rhs => rw [← hspans, List.zipIdx_map, List.flatMap_map]
  rfl

/-- The rows stored in each column. -/
def storedRows (t : Triangle) (m : Matrix α) : List (List Nat) :=
  (storedColumns t m).map (·.map (·.1))

theorem length_storedRows (t : Triangle) (m : Matrix α) : (storedRows t m).length = m.ncols := by
  simp [storedRows, storedColumns]

theorem stores_ofMatrix_iff (t : Triangle) (m : Matrix α) (r c : Nat) :
    (ofMatrix t m).Stores r c ↔ ∃ rows, (storedRows t m)[c]? = some rows ∧ r ∈ rows := by
  simp only [Stores, triples_ofMatrix, List.mem_flatMap, List.mem_map, Prod.exists,
    List.mem_zipIdx_iff_getElem?, storedRows, List.getElem?_map, Option.map_eq_some_iff]
  constructor
  · rintro ⟨v, column, c', hcolumn, r', v', hmem, heq⟩
    cases heq
    exact ⟨_, ⟨column, hcolumn, rfl⟩, List.mem_map_of_mem hmem⟩
  · rintro ⟨_, ⟨column, hcolumn, rfl⟩, hr⟩
    obtain ⟨⟨r', v⟩, hmem, rfl⟩ := List.mem_map.1 hr
    exact ⟨v, column, c, hcolumn, r', v, hmem, rfl⟩

theorem pairwise_storedRows (t : Triangle) (m : Matrix α) {rows : List Nat}
    (h : rows ∈ storedRows t m) : rows.Pairwise (· < ·) := by
  simp only [storedRows, storedColumns, List.map_map, List.mem_map, Function.comp] at h
  obtain ⟨c, -, rfl⟩ := h
  -- The stored rows are some of the places of the column, and the places ascend.
  have hplaces : (m.column c).zipIdx.Pairwise fun x y => x.2 < y.2 := by
    rw [← List.pairwise_map, List.zipIdx_map_snd]
    exact List.pairwise_lt_range'
  rw [List.pairwise_map]
  refine hplaces.filterMap _ fun x y hxy rv hx rv' hy => ?_
  simp only [Option.ite_none_right_eq_some, Option.some.injEq] at hx hy
  obtain ⟨-, rfl⟩ := hx
  obtain ⟨-, rfl⟩ := hy
  exact hxy

theorem colptr_ofMatrix (t : Triangle) (m : Matrix α) :
    (ofMatrix t m).colptr = offsets 0 ((storedRows t m).map (·.length)) := by
  simp [ofMatrix, storedRows, Function.comp_def]

theorem rowval_ofMatrix (t : Triangle) (m : Matrix α) :
    (ofMatrix t m).rowval = (storedRows t m).flatten := by
  rw [ofMatrix, List.flatMap_def, storedRows]

theorem samePattern_ofMatrix_iff_storedRows (t u : Triangle) (a b : Matrix α) :
    (ofMatrix t a).samePattern (ofMatrix u b) = true ↔
      a.nrows = b.nrows ∧ a.ncols = b.ncols ∧ storedRows t a = storedRows u b := by
  rw [samePattern_iff, List.eq_iff_flatten_eq, ← rowval_ofMatrix, ← rowval_ofMatrix,
    colptr_ofMatrix, colptr_ofMatrix]
  constructor
  · rintro ⟨hnrows, hncols, hends, hflat⟩
    exact ⟨hnrows, hncols, hflat, offsets_injective hends⟩
  · rintro ⟨hnrows, hncols, hflat, hsizes⟩
    exact ⟨hnrows, hncols, congrArg (offsets 0) hsizes, hflat⟩

/-- The pattern of a matrix is its shape and the positions it stores. -/
theorem samePattern_ofMatrix_iff (t u : Triangle) (a b : Matrix α) :
    (ofMatrix t a).samePattern (ofMatrix u b) = true ↔
      (ofMatrix t a).SamePositions (ofMatrix u b) := by
  rw [samePattern_ofMatrix_iff_storedRows]
  constructor
  · rintro ⟨hrows, hcols, hstored⟩
    refine ⟨hrows, hcols, fun r c => ?_⟩
    rw [stores_ofMatrix_iff, stores_ofMatrix_iff, hstored]
  · rintro ⟨hrows, hcols, hstores⟩
    refine ⟨hrows, hcols, List.ext_getElem ?_ fun c hc hc' => ?_⟩
    · rw [length_storedRows, length_storedRows]
      exact hcols
    · -- Both columns ascend, so their members tell them apart.
      refine (pairwise_storedRows t a (List.getElem_mem hc)).eq_of_mem_iff
        (pairwise_storedRows u b (List.getElem_mem hc')) fun r => ?_
      have := hstores r c
      rw [stores_ofMatrix_iff, stores_ofMatrix_iff, List.getElem?_eq_getElem hc,
        List.getElem?_eq_getElem hc'] at this
      simpa using this

end QuadOpt.Csc
