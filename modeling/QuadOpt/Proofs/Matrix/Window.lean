import QuadOpt.Proofs.Matrix.Flat
import QuadOpt.Proofs.Matrix.Guarded

/-!
# Where the rows of a stack come from

In a stack every block has a window of rows. The windows follow on one another without a gap, so each
row of the stack is a row of just one block. Stacking stacks, and storing a stack row by row, is
therefore no more than appending.
-/

namespace QuadOpt.Matrix

variable {α : Type} {n : ℕ}

/-! ## Windows -/

/-- The number of rows above the block at place `i`. -/
def offset (blocks : List (Block α n)) (i : ℕ) : ℕ := ((blocks.take i).map (·.1.nrows)).sum

/-- Row `k` of the stack is one of the rows of the block at place `i`. -/
structure InWindow (blocks : List (Block α n)) (i : Fin blocks.length) (k : ℕ) : Prop where
  offset_le : offset blocks i ≤ k
  lt_offset_add : k < offset blocks i + blocks[i].1.nrows

theorem toLists_vstack (blocks : List (Block α n)) :
    (vstack blocks).toLists = blocks.flatMap (·.1.toLists) := by
  induction blocks with
  | nil => rfl
  | cons b blocks ih => rw [toLists_vstack_cons, ih, List.flatMap_cons]

theorem offset_succ (blocks : List (Block α n)) (i : Fin blocks.length) :
    offset blocks (i + 1) = offset blocks i + blocks[i].1.nrows := by
  unfold offset
  rw [List.take_add_one, List.getElem?_eq_getElem i.2, List.map_append, List.sum_append]
  simp

theorem offset_mono (blocks : List (Block α n)) {i j : ℕ} (h : i ≤ j) :
    offset blocks i ≤ offset blocks j := by
  obtain ⟨d, rfl⟩ := Nat.exists_eq_add_of_le h
  unfold offset
  rw [List.take_add, List.map_append, List.sum_append]
  exact Nat.le_add_right _ _

theorem length_flatMap_toLists (blocks : List (Block α n)) :
    (blocks.flatMap (·.1.toLists)).length = (blocks.map (·.1.nrows)).sum := by
  rw [List.length_flatMap]
  simp only [length_toLists]

theorem nrows_vstack (blocks : List (Block α n)) :
    (vstack blocks).nrows = (blocks.map (·.1.nrows)).sum := by
  rw [← length_toLists, toLists_vstack, length_flatMap_toLists]

theorem offset_of_length_le {blocks : List (Block α n)} {i : ℕ} (h : blocks.length ≤ i) :
    offset blocks i = (vstack blocks).nrows := by
  rw [offset, List.take_of_length_le h, nrows_vstack]

theorem exists_inWindow {blocks : List (Block α n)} {k : ℕ} (hk : k < (vstack blocks).nrows) :
    ∃ i, InWindow blocks i k := by
  have hend : ∃ j, k < offset blocks j := ⟨blocks.length, by rwa [offset_of_length_le le_rfl]⟩
  -- The block in question is the last one that does not start below row `k`.
  obtain ⟨j, hj, hbefore⟩ : ∃ j, k < offset blocks j ∧ ∀ i < j, ¬ k < offset blocks i :=
    ⟨Nat.find hend, Nat.find_spec hend, fun _ => Nat.find_min hend⟩
  cases j with
  | zero => exact absurd hj (Nat.not_lt_zero k)
  | succ i =>
    have hle := Nat.le_of_not_lt (hbefore i i.lt_succ_self)
    have hi : i < blocks.length := by
      by_contra hout
      rw [offset_of_length_le (Nat.le_of_not_lt hout)] at hle
      omega
    rw [offset_succ blocks ⟨i, hi⟩] at hj
    exact ⟨⟨i, hi⟩, hle, hj⟩

theorem InWindow.le {blocks : List (Block α n)} {i j : Fin blocks.length} {k : ℕ}
    (hi : InWindow blocks i k) (hj : InWindow blocks j k) : i ≤ j := by
  by_contra hlt
  have hnext := offset_mono blocks (Nat.succ_le_of_lt (Fin.lt_def.1 (not_le.1 hlt)))
  have hfirst := hi.offset_le
  have hlast := hj.lt_offset_add
  rw [Nat.succ_eq_add_one, offset_succ] at hnext
  omega

theorem existsUnique_inWindow {blocks : List (Block α n)} {k : ℕ}
    (hk : k < (vstack blocks).nrows) : ∃! i, InWindow blocks i k := by
  obtain ⟨i, hi⟩ := exists_inWindow hk
  exact ⟨i, hi, fun j hj => le_antisymm (hj.le hi) (hi.le hj)⟩

theorem InWindow.lt_nrows {blocks : List (Block α n)} {i : Fin blocks.length} {k : ℕ}
    (h : InWindow blocks i k) : k < (vstack blocks).nrows := by
  have hend := offset_mono blocks (Nat.succ_le_of_lt i.2)
  rw [offset_of_length_le le_rfl, Nat.succ_eq_add_one, offset_succ] at hend
  exact h.lt_offset_add.trans_le hend

theorem InWindow.getElem?_vstack {blocks : List (Block α n)} {i : Fin blocks.length} {k : ℕ}
    (h : InWindow blocks i k) :
    (vstack blocks).toLists[k]? = blocks[i].1.toLists[k - offset blocks i]? := by
  have hbelow : blocks.drop i = blocks[i] :: blocks.drop (i + 1) := List.drop_eq_getElem_cons i.2
  have hsplit : (vstack blocks).toLists = (blocks.take i).flatMap (·.1.toLists) ++
      (blocks[i].1.toLists ++ (blocks.drop (i + 1)).flatMap (·.1.toLists)) := by
    conv_lhs => rw [toLists_vstack, ← List.take_append_drop i blocks, List.flatMap_append, hbelow,
      List.flatMap_cons]
  have habove : ((blocks.take i).flatMap (·.1.toLists)).length = offset blocks i :=
    length_flatMap_toLists _
  have hfirst := h.offset_le
  have hlast := h.lt_offset_add
  rw [hsplit, List.getElem?_append_right (by omega), habove,
    List.getElem?_append_left (by rw [length_toLists]; omega)]

/-! ## Stacks of stacks -/

theorem vstack_append (blocks more : List (Block α n)) :
    vstack (blocks ++ more) = vstack [⟨vstack blocks, rfl⟩, ⟨vstack more, rfl⟩] := by
  refine eq_of_toLists_eq rfl ?_
  rw [toLists_vstack, List.flatMap_append, toLists_vstack_cons, toLists_vstack_cons,
    toLists_vstack_nil, List.append_nil, toLists_vstack, toLists_vstack]

/-! ## Storage row by row -/

theorem rowMajor_eq_flatten (m : Matrix α) : m.rowMajor = m.toLists.flatten :=
  List.flatMap_def

theorem rowMajor_vstack (blocks : List (Block α n)) :
    (vstack blocks).rowMajor = blocks.flatMap (·.1.rowMajor) := by
  simp only [rowMajor_eq_flatten, toLists_vstack]
  induction blocks with
  | nil => rfl
  | cons b blocks ih => rw [List.flatMap_cons, List.flatten_append, ih, List.flatMap_cons]

/-- A matrix of known shape can be read back from its entries. -/
theorem injOn_rowMajor (r c : ℕ) :
    Set.InjOn (rowMajor : Matrix α → List α) {m | m.nrows = r ∧ m.ncols = c} := by
  rintro a ⟨harows, hacols⟩ b ⟨hbrows, hbcols⟩ h
  refine eq_of_toLists_eq (hacols.trans hbcols.symm) ?_
  rw [← a.chunks_rowMajor, ← b.chunks_rowMajor, h, harows, hacols, hbrows, hbcols]

/-- Each row of a stack is a row of the one block in whose window it falls, and stacking and storing
row by row go along with appending. The stack is what copying the blocks one by one into a buffer of
zeros gives, and the storage is that of the columns of the mirrored matrix. -/
theorem stacking_homomorphic [OfNat α 0] (blocks more : List (Block α n)) (m : Matrix α) :
    Guarded.stack n (blocks.map (·.1)) = .ok (vstack blocks) ∧
      (∀ k : Fin (vstack blocks).nrows, ∃! i, InWindow blocks i k) ∧
      (∀ i k, InWindow blocks i k → k < (vstack blocks).nrows ∧
        (vstack blocks).toLists[k]? = blocks[i].1.toLists[k - offset blocks i]?) ∧
      vstack (blocks ++ more) = vstack [⟨vstack blocks, rfl⟩, ⟨vstack more, rfl⟩] ∧
      (vstack blocks).rowMajor = blocks.flatMap (·.1.rowMajor) ∧
      m.rowMajor = m.transpose.columnMajor ∧
      m.rowMajor.length = m.nrows * m.ncols ∧
      (∀ (r : Fin m.nrows) (c : Fin m.ncols),
        m.rowMajor[r * m.ncols + c]? = some (m.entry r c)) ∧
      ∀ r c, Set.InjOn (rowMajor : Matrix α → List α) {m | m.nrows = r ∧ m.ncols = c} := by
  exact ⟨Guarded.stack_eq_ok blocks, fun k => existsUnique_inWindow k.2,
    fun i k h => ⟨h.lt_nrows, h.getElem?_vstack⟩, vstack_append blocks more, rowMajor_vstack blocks,
    m.columnMajor_transpose.symm, m.length_rowMajor, m.getElem?_rowMajor, injOn_rowMajor⟩

end QuadOpt.Matrix
