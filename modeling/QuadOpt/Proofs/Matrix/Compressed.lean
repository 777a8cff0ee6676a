import QuadOpt.Proofs.Form.Rows
import QuadOpt.Proofs.Matrix.Entries
import QuadOpt.Proofs.Matrix.Stored
import QuadOpt.Proofs.Matrix.Upper

/-!
# Compressed columns are exact

A method that is handed compressed columns indexes memory with them, so the pointers and rows have to
be in order whatever the matrix. What is stored is the nonzero entries of the part asked for, each
once, and writing them into a blank matrix gives that part back.
-/

namespace QuadOpt

/-! ## Entries and parts -/

namespace Matrix

variable {α : Type}

/-- The entry in row `r` and column `c` is there, and is `v`. -/
def HasEntry (m : Matrix α) (r c : Nat) (v : α) : Prop :=
  ∃ (hr : r < m.nrows) (hc : c < m.ncols), m.entry ⟨r, hr⟩ ⟨c, hc⟩ = v

theorem HasEntry.unique {m : Matrix α} {r c : Nat} {v w : α} (hv : m.HasEntry r c v)
    (hw : m.HasEntry r c w) : v = w := by
  obtain ⟨_, _, rfl⟩ := hv
  obtain ⟨_, _, rfl⟩ := hw
  rfl

theorem getElem?_column_eq_some_iff (m : Matrix α) (c : Fin m.ncols) (r : Nat) (v : α) :
    (m.column c)[r]? = some v ↔ m.HasEntry r c v := by
  rw [List.getElem?_eq_some_iff]
  constructor
  · rintro ⟨hr, hv⟩
    rw [m.getElem_column c hr] at hv
    exact ⟨m.length_column c ▸ hr, c.2, hv⟩
  · rintro ⟨hr, _, hv⟩
    refine ⟨by rwa [m.length_column c], ?_⟩
    rw [m.getElem_column c]
    exact hv

theorem hasEntry_iff_toLists (m : Matrix α) (r c : Nat) (v : α) :
    m.HasEntry r c v ↔ ∃ row, m.toLists[r]? = some row ∧ row[c]? = some v := by
  constructor
  · rintro ⟨hr, hc, rfl⟩
    have hrow : r < m.toLists.length := by rwa [m.length_toLists]
    have hcol : c < m.toLists[r].length := by rwa [m.length_getElem_toLists]
    refine ⟨_, List.getElem?_eq_getElem hrow, ?_⟩
    rw [List.getElem?_eq_getElem hcol, m.getElem_getElem_toLists]
  · rintro ⟨row, hrow, hv⟩
    obtain ⟨hr, rfl⟩ := List.getElem?_eq_some_iff.1 hrow
    obtain ⟨hc, rfl⟩ := List.getElem?_eq_some_iff.1 hv
    rw [m.getElem_getElem_toLists hr hc]
    exact ⟨_, _, rfl⟩

theorem entry_ofFn {nrows ncols : Nat} (f : Fin nrows → Fin ncols → α) {r c : Nat} (hr : r < nrows)
    (hc : c < ncols) (hr' : r < (ofFn nrows ncols f).nrows) (hc' : c < (ofFn nrows ncols f).ncols) :
    (ofFn nrows ncols f).entry ⟨r, hr'⟩ ⟨c, hc'⟩ = f ⟨r, hr⟩ ⟨c, hc⟩ := by
  show (ofFn nrows ncols f).rows[r][c] = _
  simp [ofFn]

theorem beq_toLists_iff {rows : List (List Float)} {m : Matrix Float}
    (hrows : rows.length = m.nrows)
    (hcols : ∀ r (hr : r < rows.length), rows[r].length = m.ncols) :
    (rows == m.toLists) = true ↔
      ∀ r c (hr : r < m.nrows) (hc : c < m.ncols) (hr' : r < rows.length)
        (hc' : c < rows[r].length), (rows[r][c] == m.entry ⟨r, hr⟩ ⟨c, hc⟩) = true := by
  simp only [beq_lists_iff, getElem_getElem_toLists, length_getElem_toLists, length_toLists]
  constructor
  · rintro ⟨-, hall⟩ r c hr hc hr' hc'
    exact (hall r hr' hr).2 c hc' hc
  · intro hall
    exact ⟨hrows, fun r hr' hr => ⟨hcols r hr', fun c hc' hc => hall r c hr hc hr' hc'⟩⟩

/-- The matrix with zeros outside of the part. -/
def part [OfNat α 0] (t : Triangle) (m : Matrix α) : Matrix α :=
  .ofFn m.nrows m.ncols fun r c => if t.covers r c then m.entry r c else 0

theorem entry_part [OfNat α 0] (t : Triangle) (m : Matrix α) {r c : Nat} (hr : r < m.nrows)
    (hc : c < m.ncols) (hr' : r < (m.part t).nrows) (hc' : c < (m.part t).ncols) :
    (m.part t).entry ⟨r, hr'⟩ ⟨c, hc'⟩ = if t.covers r c then m.entry ⟨r, hr⟩ ⟨c, hc⟩ else 0 :=
  entry_ofFn _ hr hc hr' hc'

theorem part_full [OfNat α 0] (m : Matrix α) : m.part .full = m := by
  obtain ⟨n, rows⟩ := m
  rw [part, ofFn]
  congr 1
  refine List.ext_getElem (by simp [nrows]) fun r _ _ => ?_
  rw [List.getElem_ofFn]
  apply Vector.ext
  intro c hc
  simp [Triangle.covers, entry]

end Matrix

namespace Csc

/-! ## Pointers and rows in order -/

section

variable {α : Type}

/-- What a method relies on when it reads compressed columns. -/
structure WellFormed (s : Csc α) : Prop where
  length_colptr : s.colptr.length = s.ncols + 1
  length_rowval : s.rowval.length = s.nnz
  first : s.colptr.head? = some 0
  ascending : s.colptr.Pairwise (· ≤ ·)
  last : s.colptr.getLast? = some s.nnz
  rows_ascending : ∀ span ∈ s.colptr.zip s.colptr.tail,
    ((s.rowval.take span.2).drop span.1).Pairwise (· < ·)
  rows_lt : ∀ r ∈ s.rowval, r < s.nrows

theorem le_of_mem_offsets {start k : Nat} {ns : List Nat} (h : k ∈ offsets start ns) :
    start ≤ k := by
  induction ns generalizing start with
  | nil => exact (List.mem_singleton.1 h).ge
  | cons n ns ih =>
    rcases List.mem_cons.1 h with rfl | h
    · exact Nat.le_refl _
    · have := ih h
      omega

theorem pairwise_offsets (start : Nat) (ns : List Nat) :
    (offsets start ns).Pairwise (· ≤ ·) := by
  induction ns generalizing start with
  | nil => exact List.pairwise_singleton _ _
  | cons n ns ih =>
    refine List.pairwise_cons.2 ⟨fun k hk => ?_, ih (start + n)⟩
    have := le_of_mem_offsets hk
    omega

theorem getLast?_offsets (start : Nat) (ns : List Nat) :
    (offsets start ns).getLast? = some (start + ns.sum) := by
  induction ns generalizing start with
  | nil => rfl
  | cons n ns ih =>
    rw [offsets, offsets_eq_cons, List.getLast?_cons_cons, ← offsets_eq_cons, ih, List.sum_cons,
      Nat.add_assoc]

variable [BEq α] [OfNat α 0]

theorem length_nzval_ofMatrix (t : Triangle) (m : Matrix α) :
    (ofMatrix t m).nnz = ((storedRows t m).map (·.length)).sum := by
  simp [nnz, ofMatrix, storedRows, List.length_flatMap, Function.comp_def]

theorem mem_storedColumn_iff (t : Triangle) (m : Matrix α) (c : Fin m.ncols) (r : Nat) (v : α) :
    (r, v) ∈ storedColumn t m c ↔ m.HasEntry r c v ∧ t.covers r c = true ∧ (v != 0) = true := by
  simp only [storedColumn, List.mem_filterMap, Prod.exists, List.mem_zipIdx_iff_getElem?,
    m.getElem?_column_eq_some_iff, Option.ite_none_right_eq_some, Bool.and_eq_true,
    Option.some.injEq, Prod.mk.injEq]
  constructor
  · rintro ⟨v', r', hentry, hstored, rfl, rfl⟩
    exact ⟨hentry, hstored⟩
  · rintro ⟨hentry, hstored⟩
    exact ⟨v, r, hentry, hstored, rfl, rfl⟩

theorem rows_lt_of_mem_storedRows (t : Triangle) (m : Matrix α) {rows : List Nat}
    (h : rows ∈ storedRows t m) : ∀ r ∈ rows, r < m.nrows := by
  simp only [storedRows, storedColumns, List.map_map, List.mem_map, Function.comp] at h
  obtain ⟨c, -, rfl⟩ := h
  intro r hr
  obtain ⟨⟨r, v⟩, hmem, rfl⟩ := List.mem_map.1 hr
  obtain ⟨⟨hr, -, -⟩, -⟩ := (mem_storedColumn_iff t m c r v).1 hmem
  exact hr

theorem wellFormed_ofMatrix (t : Triangle) (m : Matrix α) : (ofMatrix t m).WellFormed where
  length_colptr := by
    rw [colptr_ofMatrix, length_offsets, List.length_map, length_storedRows]
    rfl
  length_rowval := by
    rw [rowval_ofMatrix, List.length_flatten, length_nzval_ofMatrix]
  first := by
    rw [colptr_ofMatrix, offsets_eq_cons]
    rfl
  ascending := by
    rw [colptr_ofMatrix]
    exact pairwise_offsets _ _
  last := by
    rw [colptr_ofMatrix, getLast?_offsets, length_nzval_ofMatrix, Nat.zero_add]
  rows_ascending := by
    intro span hspan
    have hslices := map_slice_offsets [] (storedRows t m)
    simp only [List.nil_append, List.length_nil] at hslices
    rw [← colptr_ofMatrix, ← rowval_ofMatrix] at hslices
    apply pairwise_storedRows t m
    rw [← hslices]
    exact List.mem_map_of_mem hspan
  rows_lt := by
    intro r hr
    rw [rowval_ofMatrix, List.mem_flatten] at hr
    obtain ⟨rows, hrows, hr⟩ := hr
    exact rows_lt_of_mem_storedRows t m hrows r hr

/-! ## What is stored -/

theorem zipIdx_map_finRange {β : Type} {n : Nat} (f : Fin n → β) :
    ((List.finRange n).map f).zipIdx = (List.finRange n).map fun i => (f i, i.1) := by
  refine List.ext_getElem (by simp) fun i _ _ => ?_
  simp

theorem triples_ofMatrix_eq_flatMap (t : Triangle) (m : Matrix α) :
    (ofMatrix t m).triples = (List.finRange m.ncols).flatMap fun c =>
      (storedColumn t m c).map fun (r, v) => (r, c.1, v) := by
  rw [triples_ofMatrix, storedColumns, zipIdx_map_finRange, List.flatMap_map]

/-- The nonzero entries of the part are stored, and nothing else is. -/
theorem mem_triples_ofMatrix_iff (t : Triangle) (m : Matrix α) (r c : Nat) (v : α) :
    (r, c, v) ∈ (ofMatrix t m).triples ↔
      m.HasEntry r c v ∧ t.covers r c = true ∧ (v != 0) = true := by
  rw [triples_ofMatrix_eq_flatMap, List.mem_flatMap]
  constructor
  · rintro ⟨c, -, hmem⟩
    obtain ⟨⟨r, v⟩, hmem, heq⟩ := List.mem_map.1 hmem
    cases heq
    exact (mem_storedColumn_iff t m c _ _).1 hmem
  · rintro ⟨hentry, hstored⟩
    obtain ⟨-, hc, -⟩ := id hentry
    refine ⟨⟨c, hc⟩, List.mem_finRange _, List.mem_map.2 ⟨(r, v), ?_, rfl⟩⟩
    exact (mem_storedColumn_iff t m ⟨c, hc⟩ r v).2 ⟨hentry, hstored⟩

def position (x : Nat × Nat × α) : Nat × Nat := (x.1, x.2.1)

theorem nodup_positions_ofMatrix (t : Triangle) (m : Matrix α) :
    ((ofMatrix t m).triples.map position).Nodup := by
  have hcolumn (c : Fin m.ncols) :
      ((storedColumn t m c).map fun (r, v) => (r, c.1, v)).map position =
        ((storedColumn t m c).map (·.1)).map (·, c.1) := by
    rw [List.map_map, List.map_map]
    rfl
  rw [triples_ofMatrix_eq_flatMap, List.map_flatMap, List.nodup_flatMap]
  simp only [hcolumn]
  constructor
  · intro c _
    have hrows : (storedColumn t m c).map (·.1) ∈ storedRows t m := by
      rw [storedRows, storedColumns, List.map_map]
      exact List.mem_map_of_mem (List.mem_finRange c)
    have hnodup : ((storedColumn t m c).map (·.1)).Nodup :=
      (pairwise_storedRows t m hrows).imp Nat.ne_of_lt
    exact hnodup.map fun _ _ h => congrArg Prod.fst h
  · refine (List.nodup_finRange _).imp fun {c d} hne => ?_
    intro x hc hd
    obtain ⟨_, -, rfl⟩ := List.mem_map.1 hc
    obtain ⟨_, -, heq⟩ := List.mem_map.1 hd
    exact hne (Fin.ext (congrArg Prod.snd heq).symm)

/-! ## Writing the entries back -/

end

def writeEntry (a : Array (Array Float)) (x : Nat × Nat × Float) : Array (Array Float) :=
  a.modify x.1 (·.setIfInBounds x.2.1 x.2.2)

def cell? (a : Array (Array Float)) (at_ : Nat × Nat) : Option Float :=
  a[at_.1]?.bind (·[at_.2]?)

theorem cell?_writeEntry (a : Array (Array Float)) (x : Nat × Nat × Float) (at_ : Nat × Nat) :
    cell? (writeEntry a x) at_ =
      if position x = at_ then (cell? a at_).map fun _ => x.2.2 else cell? a at_ := by
  obtain ⟨r, c, v⟩ := x
  obtain ⟨r', c'⟩ := at_
  simp only [cell?, writeEntry, position, Array.getElem?_modify, Prod.mk.injEq]
  by_cases hr : r = r'
  · subst hr
    cases a[r]? with
    | none => simp
    | some row =>
      by_cases hc : c = c'
      · subst hc
        by_cases hlt : c < row.size <;> simp [hlt]
      · simp [hc]
  · simp [hr]

theorem cell?_foldl_of_forall_ne (xs : List (Nat × Nat × Float)) (a : Array (Array Float))
    {at_ : Nat × Nat} (h : ∀ x ∈ xs, position x ≠ at_) :
    cell? (xs.foldl writeEntry a) at_ = cell? a at_ := by
  induction xs generalizing a with
  | nil => rfl
  | cons x xs ih =>
    rw [List.foldl_cons, ih _ fun y hy => h y (List.mem_cons_of_mem x hy), cell?_writeEntry,
      if_neg (h x List.mem_cons_self)]

theorem cell?_foldl_of_mem {xs : List (Nat × Nat × Float)} (hxs : (xs.map position).Nodup)
    {x : Nat × Nat × Float} (hx : x ∈ xs) (a : Array (Array Float)) :
    cell? (xs.foldl writeEntry a) (position x) = (cell? a (position x)).map fun _ => x.2.2 := by
  induction xs generalizing a with
  | nil => cases hx
  | cons y xs ih =>
    rw [List.map_cons, List.nodup_cons] at hxs
    rw [List.foldl_cons]
    rcases List.mem_cons.1 hx with rfl | hx
    · have hrest : ∀ y ∈ xs, position y ≠ position x := by
        intro y hy heq
        exact hxs.1 (heq ▸ List.mem_map_of_mem hy)
      rw [cell?_foldl_of_forall_ne xs _ hrest, cell?_writeEntry, if_pos rfl]
    · have hne : position y ≠ position x := by
        intro heq
        exact hxs.1 (heq ▸ List.mem_map_of_mem hx)
      rw [ih hxs.2 hx, cell?_writeEntry, if_neg hne]

/-- So many rows, and so many entries in each. -/
def Shaped (nrows ncols : Nat) (a : Array (Array Float)) : Prop :=
  a.size = nrows ∧ ∀ r (h : r < a.size), a[r].size = ncols

theorem Shaped.foldl_writeEntry {nrows ncols : Nat} {a : Array (Array Float)}
    (h : Shaped nrows ncols a) (xs : List (Nat × Nat × Float)) :
    Shaped nrows ncols (xs.foldl writeEntry a) := by
  induction xs generalizing a with
  | nil => exact h
  | cons x xs ih =>
    apply ih
    obtain ⟨hrows, hcols⟩ := h
    refine ⟨by rw [writeEntry, Array.size_modify, hrows], fun r hr => ?_⟩
    have hr' : r < a.size := by rwa [writeEntry, Array.size_modify] at hr
    have hsize := hcols r hr'
    simp only [writeEntry, Array.getElem_modify]
    split
    · rw [Array.size_setIfInBounds]
      exact hsize
    · exact hsize

/-- The arrays that `toDense` fills. -/
def filled (s : Csc Float) : Array (Array Float) :=
  s.triples.foldl writeEntry (Array.replicate s.nrows (Array.replicate s.ncols 0))

theorem toDense_eq (s : Csc Float) : s.toDense = s.filled.toList.map (·.toList) := rfl

theorem shaped_filled (s : Csc Float) : Shaped s.nrows s.ncols s.filled := by
  apply Shaped.foldl_writeEntry
  exact ⟨Array.size_replicate, fun r hr => by rw [Array.getElem_replicate, Array.size_replicate]⟩

theorem length_toDense (s : Csc Float) : s.toDense.length = s.nrows := by
  rw [toDense_eq, List.length_map, Array.length_toList, s.shaped_filled.1]

theorem length_getElem_toDense (s : Csc Float) {r : Nat} (hr : r < s.toDense.length) :
    s.toDense[r].length = s.ncols := by
  simp only [toDense_eq, List.getElem_map, Array.getElem_toList, Array.length_toList]
  exact s.shaped_filled.2 r _

theorem cell?_filled_ofMatrix (t : Triangle) (m : Matrix Float) {r c : Nat} (hr : r < m.nrows)
    (hc : c < m.ncols) :
    cell? (ofMatrix t m).filled (r, c) =
      if t.covers r c = true ∧ (m.entry ⟨r, hr⟩ ⟨c, hc⟩ != 0) = true then
        some (m.entry ⟨r, hr⟩ ⟨c, hc⟩)
      else some 0 := by
  have hblank : cell? (Array.replicate (ofMatrix t m).nrows
      (Array.replicate (ofMatrix t m).ncols 0)) (r, c) = some 0 := by
    have hr' : r < (ofMatrix t m).nrows := hr
    have hc' : c < (ofMatrix t m).ncols := hc
    simp [cell?, hr', hc']
  split
  · next h =>
    have hmem := (mem_triples_ofMatrix_iff t m r c _).2 ⟨⟨hr, hc, rfl⟩, h⟩
    have hcell := cell?_foldl_of_mem (nodup_positions_ofMatrix t m) hmem
    rw [filled, show (r, c) = position (r, c, m.entry ⟨r, hr⟩ ⟨c, hc⟩) from rfl, hcell, position,
      hblank]
    rfl
  · next h =>
    rw [filled, cell?_foldl_of_forall_ne, hblank]
    rintro ⟨r', c', v⟩ hmem heq
    cases heq
    obtain ⟨⟨_, _, hv⟩, hstored⟩ := (mem_triples_ofMatrix_iff t m _ _ v).1 hmem
    rw [← hv] at hstored
    exact h hstored

theorem getElem_toDense_ofMatrix (t : Triangle) (m : Matrix Float) {r c : Nat} (hr : r < m.nrows)
    (hc : c < m.ncols) (hr' : r < (ofMatrix t m).toDense.length)
    (hc' : c < (ofMatrix t m).toDense[r].length) :
    (ofMatrix t m).toDense[r][c] =
      if t.covers r c = true ∧ (m.entry ⟨r, hr⟩ ⟨c, hc⟩ != 0) = true then m.entry ⟨r, hr⟩ ⟨c, hc⟩
      else 0 := by
  have hcell := cell?_filled_ofMatrix t m hr hc
  have hrow : r < (ofMatrix t m).filled.size := by
    rw [(shaped_filled _).1]
    exact hr
  have hcol : c < (ofMatrix t m).filled[r].size := by
    rw [(shaped_filled _).2 r hrow]
    exact hc
  rw [cell?, Array.getElem?_eq_getElem hrow, Option.bind_some, Array.getElem?_eq_getElem hcol,
    ← apply_ite some] at hcell
  simp only [toDense_eq, List.getElem_map, Array.getElem_toList]
  exact Option.some.inj hcell

/-- What is left out of the part equals what is put there instead. -/
theorem beq_stored_iff (covered : Bool) (v : Float) :
    ((if covered = true ∧ (v != 0) = true then v else 0) == (if covered = true then v else 0)) =
      true ↔ (covered = true → v.isNaN = false) := by
  cases covered with
  | false => simp [show ((0 : Float) == 0) = true by decide +kernel]
  | true =>
    by_cases hv : (v != 0) = true
    · rw [if_pos ⟨rfl, hv⟩, if_pos rfl, Binary64.beq_self_iff]
      exact ⟨fun h _ => h, fun h => h rfl⟩
    · have hzero : (v == 0) = true := by simpa [bne] using hv
      rw [if_neg fun h => hv h.2, if_pos rfl]
      exact ⟨fun _ _ => ((Binary64.beq_zero_iff v).1 hzero).1, fun _ => Binary64.beq_symm hzero⟩

theorem toDense_beq_part_iff (t : Triangle) (m : Matrix Float) :
    ((ofMatrix t m).toDense == (m.part t).toLists) = true ↔
      ∀ (r : Fin m.nrows) (c : Fin m.ncols), t.covers r c = true → (m.entry r c).isNaN = false := by
  have hnrows : (m.part t).nrows = m.nrows := Matrix.nrows_ofFn _ _ _
  have hlength : (ofMatrix t m).toDense.length = m.nrows := length_toDense _
  have hcell {r c : Nat} (hr : r < m.nrows) (hc : c < m.ncols)
      (hr' : r < (ofMatrix t m).toDense.length) (hc' : c < (ofMatrix t m).toDense[r].length)
      (hp : r < (m.part t).nrows) (hp' : c < (m.part t).ncols) :
      ((ofMatrix t m).toDense[r][c] == (m.part t).entry ⟨r, hp⟩ ⟨c, hp'⟩) = true ↔
        (t.covers r c = true → (m.entry ⟨r, hr⟩ ⟨c, hc⟩).isNaN = false) := by
    rw [getElem_toDense_ofMatrix t m hr hc, Matrix.entry_part t m hr hc, beq_stored_iff]
  rw [Matrix.beq_toLists_iff (hlength.trans hnrows.symm) fun r hr => length_getElem_toDense _ hr]
  constructor
  · intro hall r c
    have hr : r.1 < (ofMatrix t m).toDense.length := by
      rw [hlength]
      exact r.2
    have hc : c.1 < (ofMatrix t m).toDense[r.1].length := by
      rw [length_getElem_toDense]
      exact c.2
    have hp : r.1 < (m.part t).nrows := by
      rw [hnrows]
      exact r.2
    exact (hcell r.2 c.2 hr hc hp c.2).1 (hall r c hp c.2 hr hc)
  · intro hall r c hp hp' hr hc
    have hrow : r < m.nrows := by rwa [hnrows] at hp
    exact (hcell hrow hp' hr hc hp hp').2 (hall ⟨r, hrow⟩ ⟨c, hp'⟩)

theorem stores_iff_of_hasEntry {t : Triangle} {m : Matrix Float} {r c : Nat} {v : Float}
    (hentry : m.HasEntry r c v) (hcovers : t.covers r c = true) :
    (ofMatrix t m).Stores r c ↔ v.isNaN = true ∨ bound v ≠ 0 := by
  have hstores : (ofMatrix t m).Stores r c ↔ (v != 0) = true := by
    constructor
    · rintro ⟨w, hw⟩
      obtain ⟨hentry', -, hne⟩ := (mem_triples_ofMatrix_iff t m r c w).1 hw
      rwa [hentry'.unique hentry] at hne
    · intro hne
      exact ⟨v, (mem_triples_ofMatrix_iff t m r c v).2 ⟨hentry, hcovers, hne⟩⟩
  have hzero := Binary64.beq_zero_iff v
  rw [hstores, bne, Bool.not_eq_true', ← Bool.not_eq_true, hzero, bound]
  cases v.isNaN <;> simp

/-- Compressed columns are in order, they store what is not zero of the part that they are made
from, each entry once, and writing all entries back gives a part of numbers again. -/
theorem ofMatrix_exact (t : Triangle) (m : Matrix Float) :
    ((ofMatrix t m).nrows = m.nrows ∧ (ofMatrix t m).ncols = m.ncols ∧
      (ofMatrix t m).WellFormed) ∧
    ((ofMatrix t m).triples.map position).Nodup ∧
    (∀ r c v, (r, c, v) ∈ (ofMatrix t m).triples ↔
      m.HasEntry r c v ∧ t.covers r c = true ∧ (v != 0) = true) ∧
    (∀ r c v, m.HasEntry r c v → t.covers r c = true →
      ((ofMatrix t m).Stores r c ↔ v.isNaN = true ∨ bound v ≠ 0)) ∧
    (((ofMatrix t m).toDense == (m.part t).toLists) = true ↔
      ∀ (r : Fin m.nrows) (c : Fin m.ncols), t.covers r c = true → (m.entry r c).isNaN = false) ∧
    m.part .full = m :=
  ⟨⟨rfl, rfl, wellFormed_ofMatrix t m⟩, nodup_positions_ofMatrix t m, mem_triples_ofMatrix_iff t m,
    fun _ _ _ => stores_iff_of_hasEntry, toDense_beq_part_iff t m, m.part_full⟩

/-! ## Equal patterns -/

/-- A nonzero entry of the part stands in row `r` and column `c`. -/
def Supports (t : Triangle) (m : Matrix Float) (r c : Nat) : Prop :=
  ∃ v, m.HasEntry r c v ∧ t.covers r c = true ∧ (v != 0) = true

theorem stores_ofMatrix_iff_supports (t : Triangle) (m : Matrix Float) (r c : Nat) :
    (ofMatrix t m).Stores r c ↔ Supports t m r c :=
  exists_congr fun v => mem_triples_ofMatrix_iff t m r c v

/-- Both comparisons of patterns say whether the matrices have the same shape and their parts the
same nonzero positions. -/
theorem samePattern_iff_supports (t u : Triangle) (a b : Matrix Float) :
    ((ofMatrix t a).samePattern (ofMatrix u b) = true ↔
      a.nrows = b.nrows ∧ a.ncols = b.ncols ∧ ∀ r c, Supports t a r c ↔ Supports u b r c) ∧
    (InteriorPoint.Columns.ofCsc (ofMatrix t a)).samePattern (.ofCsc (ofMatrix u b)) =
      (ofMatrix t a).samePattern (ofMatrix u b) := by
  refine ⟨?_, rfl⟩
  rw [samePattern_ofMatrix_iff]
  simp only [← stores_ofMatrix_iff_supports]
  constructor
  · intro h
    exact ⟨h.nrows, h.ncols, h.stores⟩
  · rintro ⟨hrows, hcols, hstores⟩
    exact ⟨hrows, hcols, hstores⟩

end Csc

end QuadOpt
