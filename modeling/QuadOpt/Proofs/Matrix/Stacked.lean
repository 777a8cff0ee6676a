import QuadOpt.Proofs.Matrix.Compressed

/-!
# Stored entries of stacked matrices

Compressed columns interleave the blocks of a stack inside every column. By rows the blocks stay
apart: the stored entries can be counted row by row, and a position of the stack is a position of the
block it falls into.
-/

namespace QuadOpt

/-! ## Counting by rows -/

/-- How many entries of the rows differ from zero. -/
def nonzeros (rows : List (List Float)) : Nat := (rows.map (·.countP (· != 0))).sum

@[simp] theorem nonzeros_append (rows more : List (List Float)) :
    nonzeros (rows ++ more) = nonzeros rows + nonzeros more := by
  simp [nonzeros]

theorem nonzeros_of_single {rows : List (List Float)}
    (h : ∀ row ∈ rows, row.countP (· != 0) = 1) : nonzeros rows = rows.length := by
  rw [nonzeros, List.map_congr_left h, List.map_const', List.sum_replicate, smul_eq_mul, mul_one]

theorem neg_bne_zero (v : Float) : (-v != 0) = (v != 0) := by
  have hbeq : (-v == 0) = (v == 0) := by
    rw [Bool.eq_iff_iff, Binary64.beq_zero_iff, Binary64.beq_zero_iff, Binary64.isNaN_neg,
      Binary64.ofFloat_neg, Binary64.value_neg, EReal.neg_eq_zero_iff]
  rw [bne, bne, hbeq]

theorem countP_unit {n : Nat} (r : Fin n) :
    (List.ofFn fun c : Fin n => if r = c then (1 : Float) else 0).countP (· != 0) = 1 := by
  have hone : ((1 : Float) != 0) = true := by decide +kernel
  have hzero : ((0 : Float) != 0) = false := by decide +kernel
  have hplace (c : Fin n) : ((if r = c then (1 : Float) else 0) != 0) = (c == r) := by
    by_cases h : r = c
    · simp [h, hone]
    · simp [h, hzero, Ne.symm h]
  rw [List.ofFn_eq_map, List.countP_map]
  simp only [Function.comp_def, hplace]
  exact List.count_eq_one_of_mem (List.nodup_finRange n) (List.mem_finRange r)

namespace Matrix

theorem countP_of_mem_identity {n : Nat} {row : List Float}
    (h : row ∈ (identity n : Matrix Float).toLists) : row.countP (· != 0) = 1 := by
  simp only [identity, ofFn, toLists, List.mem_map, List.mem_ofFn] at h
  obtain ⟨_, ⟨r, rfl⟩, rfl⟩ := h
  rw [Vector.toList_ofFn]
  exact countP_unit r

/-- The entries off the diagonal are negative zeros, and these are zeros too. -/
theorem countP_of_mem_negatedIdentity {n : Nat} {row : List Float}
    (h : row ∈ ((identity n : Matrix Float).map (-·)).toLists) : row.countP (· != 0) = 1 := by
  simp only [map, toLists, List.map_map, List.mem_map, Function.comp, Vector.toList_map] at h
  obtain ⟨unit, hunit, rfl⟩ := h
  rw [List.countP_map]
  refine Eq.trans ?_ (countP_of_mem_identity (List.mem_map_of_mem hunit))
  exact List.countP_congr fun v _ => by simp [neg_bne_zero]

end Matrix

/-! ## Counting by columns -/

namespace Csc

theorem length_storedColumn_full (m : Matrix Float) (c : Fin m.ncols) :
    (storedColumn .full m c).length = (m.column c).countP (· != 0) := by
  have hplaces : ((m.column c).zipIdx.map (·.1)).countP (· != 0) =
      (m.column c).zipIdx.countP fun x => x.1 != 0 := List.countP_map
  rw [List.zipIdx_map_fst] at hplaces
  rw [storedColumn, List.length_filterMap_eq_countP, hplaces]
  refine List.countP_congr fun x _ => ?_
  by_cases hx : (x.1 != 0) = true <;> simp [Triangle.covers, hx]

theorem sum_map_ite_eq_countP {α : Type} (xs : List α) (P : α → Bool) :
    (xs.map fun x => if P x then 1 else 0).sum = xs.countP P := by
  induction xs with
  | nil => rfl
  | cons x xs ih => rw [List.map_cons, List.sum_cons, ih, List.countP_cons, Nat.add_comm]

theorem sum_countP_columns {n : Nat} (rows : List (Vector Float n)) (P : Float → Bool) :
    ((List.finRange n).map fun c => (rows.map (·[c])).countP P).sum =
      (rows.map (·.toList.countP P)).sum := by
  induction rows with
  | nil => simp
  | cons row rows ih =>
    have hentries : row.toList = (List.finRange n).map (row[·]) := by
      rw [← List.ofFn_eq_map, ← Vector.toList_ofFn]
      exact congrArg Vector.toList Vector.ofFn_getElem.symm
    have hrow : ((List.finRange n).map fun c => if P row[c] then 1 else 0).sum =
        row.toList.countP P := by
      rw [hentries, List.countP_map]
      exact sum_map_ite_eq_countP _ (P row[·])
    -- The row adds its own entries to the columns, one to each.
    simp only [List.map_cons, List.countP_cons, List.sum_cons, List.sum_map_add, ih, hrow]
    exact Nat.add_comm _ _

/-- What is stored is what differs from zero, counted by columns or by rows. -/
theorem nnz_ofMatrix_full (m : Matrix Float) : (ofMatrix .full m).nnz = nonzeros m.toLists := by
  have hcolumns : (ofMatrix .full m).nnz =
      ((List.finRange m.ncols).map fun c => (m.column c).countP (· != 0)).sum := by
    rw [length_nzval_ofMatrix, storedRows, storedColumns, List.map_map, List.map_map]
    congr 1
    refine List.map_congr_left fun c _ => ?_
    rw [Function.comp, Function.comp, List.length_map, length_storedColumn_full]
  rw [hcolumns, nonzeros, Matrix.toLists, List.map_map]
  exact sum_countP_columns m.rows (· != 0)

theorem ne_zero_of_mem_nzval {t : Triangle} {m : Matrix Float} {v : Float}
    (h : v ∈ (ofMatrix t m).nzval) : (v != 0) = true := by
  simp only [ofMatrix, storedColumns, List.mem_flatMap, List.mem_map] at h
  obtain ⟨_, ⟨c, -, rfl⟩, ⟨r, v⟩, hmem, rfl⟩ := h
  exact ((mem_storedColumn_iff t m c r v).1 hmem).2.2

/-! ## Positions -/

/-- The parts have their nonzero entries at the same positions. -/
def SameSupport (t : Triangle) (a b : Matrix Float) : Prop :=
  ∀ r c, Supports t a r c ↔ Supports t b r c

theorem sameSupport_refl (t : Triangle) (m : Matrix Float) : SameSupport t m m := fun _ _ => Iff.rfl

theorem SameSupport.symm {t : Triangle} {a b : Matrix Float} (h : SameSupport t a b) :
    SameSupport t b a := fun r c => (h r c).symm

theorem samePattern_iff_sameSupport {t : Triangle} {a b : Matrix Float} (hrows : a.nrows = b.nrows)
    (hcols : a.ncols = b.ncols) :
    (ofMatrix t a).samePattern (ofMatrix t b) = true ↔ SameSupport t a b := by
  rw [samePattern_ofMatrix_iff]
  simp only [SameSupport, ← stores_ofMatrix_iff_supports]
  exact ⟨fun h => h.stores, fun h => ⟨hrows, hcols, h⟩⟩

theorem supports_full_iff (m : Matrix Float) (r c : Nat) :
    Supports .full m r c ↔
      ∃ v, (∃ row, m.toLists[r]? = some row ∧ row[c]? = some v) ∧ (v != 0) = true := by
  simp [Supports, Matrix.hasEntry_iff_toLists, Triangle.covers]

theorem supports_vstack_of_lt {n : Nat} (b : Matrix.Block Float n) (bs : List (Matrix.Block Float n))
    {r : Nat} (hr : r < b.1.nrows) (c : Nat) :
    Supports .full (.vstack (b :: bs)) r c ↔ Supports .full b.1 r c := by
  rw [supports_full_iff, supports_full_iff, Matrix.toLists_vstack_cons,
    List.getElem?_append_left (by rwa [Matrix.length_toLists])]

theorem supports_vstack_add {n : Nat} (b : Matrix.Block Float n) (bs : List (Matrix.Block Float n))
    (r c : Nat) :
    Supports .full (.vstack (b :: bs)) (b.1.nrows + r) c ↔ Supports .full (.vstack bs) r c := by
  rw [supports_full_iff, supports_full_iff, Matrix.toLists_vstack_cons,
    Matrix.getElem?_append_add b.1.length_toLists]

theorem Supports.lt_nrows {t : Triangle} {m : Matrix Float} {r c : Nat} (h : Supports t m r c) :
    r < m.nrows := by
  obtain ⟨v, ⟨hr, -⟩, -⟩ := h
  exact hr

/-- Blocks of one height stand at the same offset, so stacks agree block by block. -/
theorem sameSupport_vstack_cons_iff {n k : Nat} {b : Matrix.Block Float n}
    {d : Matrix.Block Float k} (hrows : b.1.nrows = d.1.nrows) {bs : List (Matrix.Block Float n)}
    {ds : List (Matrix.Block Float k)} :
    SameSupport .full (.vstack (b :: bs)) (.vstack (d :: ds)) ↔
      SameSupport .full b.1 d.1 ∧ SameSupport .full (.vstack bs) (.vstack ds) := by
  constructor
  · intro h
    refine ⟨fun r c => ?_, fun r c => ?_⟩
    · by_cases hr : r < b.1.nrows
      · rw [← supports_vstack_of_lt b bs hr, h r c, supports_vstack_of_lt d ds (hrows ▸ hr)]
      · exact iff_of_false (fun hb => hr hb.lt_nrows) fun hd => hr (hrows ▸ hd.lt_nrows)
    · rw [← supports_vstack_add b bs, ← supports_vstack_add d ds, ← hrows]
      exact h _ c
  · rintro ⟨hhead, htail⟩ r c
    rcases Nat.lt_or_ge r b.1.nrows with hr | hr
    · rw [supports_vstack_of_lt b bs hr, supports_vstack_of_lt d ds (hrows ▸ hr)]
      exact hhead r c
    · obtain ⟨r, rfl⟩ := Nat.exists_eq_add_of_le hr
      rw [supports_vstack_add b bs, hrows, supports_vstack_add d ds]
      exact htail r c

end Csc

end QuadOpt
