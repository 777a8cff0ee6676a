import QuadOpt.Proofs.Number.Comparison

/-!
# Matrices that are equal as numbers

Comparing two matrices compares their shapes and then entry by entry. A matrix equals itself unless
some entry is no number, and equal matrices equal the same others.
-/

namespace QuadOpt.Matrix

/-- Same shape, and every entry equal as a number. -/
structure EqualEntries (a b : Matrix Float) : Prop where
  nrows : a.nrows = b.nrows
  ncols : a.ncols = b.ncols
  entry : ∀ r c (hr : r < a.nrows) (hc : c < a.ncols) (hr' : r < b.nrows) (hc' : c < b.ncols),
    (a.entry ⟨r, hr⟩ ⟨c, hc⟩ == b.entry ⟨r, hr'⟩ ⟨c, hc'⟩) = true

theorem beq_lists_iff {α : Type} [BEq α] (xs ys : List α) :
    (xs == ys) = true ↔
      xs.length = ys.length ∧
        ∀ i (hi : i < xs.length) (hi' : i < ys.length), (xs[i] == ys[i]) = true := by
  rw [List.beq_eq_decide]
  split
  · next h => simp [h]
  · next h => simp [h]

theorem getElem?_append_add {α : Type} {xs : List α} {k : Nat} (h : xs.length = k) (ys : List α)
    (i : Nat) : (xs ++ ys)[k + i]? = ys[i]? := by
  rw [List.getElem?_append_right (h ▸ Nat.le_add_right _ _), h, Nat.add_sub_cancel_left]

theorem length_getElem_toLists {α : Type} (m : Matrix α) {r : Nat} (hr : r < m.toLists.length) :
    m.toLists[r].length = m.ncols := by
  simp [toLists]

theorem getElem_getElem_toLists {α : Type} (m : Matrix α) {r c : Nat} (hr : r < m.toLists.length)
    (hc : c < m.toLists[r].length) :
    m.toLists[r][c] =
      m.entry ⟨r, m.length_toLists ▸ hr⟩ ⟨c, m.length_getElem_toLists hr ▸ hc⟩ := by
  simp [toLists, entry]

theorem sameValues_iff (a b : Matrix Float) : a.sameValues b = true ↔ a.EqualEntries b := by
  simp only [sameValues, Bool.and_eq_true, beq_iff_eq, beq_lists_iff, getElem_getElem_toLists,
    length_getElem_toLists]
  constructor
  · rintro ⟨hcols, hrows, hentries⟩
    rw [length_toLists, length_toLists] at hrows
    refine ⟨hrows, hcols, fun r c hr hc hr' hc' => ?_⟩
    exact (hentries r (by simpa using hr) (by simpa using hr')).2 c hc hc'
  · rintro ⟨hrows, hcols, hentry⟩
    refine ⟨hcols, by simpa using hrows, fun r hr hr' => ⟨hcols, fun c hc hc' => ?_⟩⟩
    exact hentry r c (by simpa using hr) hc (by simpa using hr') hc'

variable {a b c : Matrix Float}

theorem EqualEntries.symm (h : a.EqualEntries b) : b.EqualEntries a where
  nrows := h.nrows.symm
  ncols := h.ncols.symm
  entry r c hr hc hr' hc' := Binary64.beq_symm (h.entry r c hr' hc' hr hc)

theorem EqualEntries.trans (hab : a.EqualEntries b) (hbc : b.EqualEntries c) :
    a.EqualEntries c where
  nrows := hab.nrows.trans hbc.nrows
  ncols := hab.ncols.trans hbc.ncols
  entry r c hr hc hr' hc' :=
    Binary64.beq_trans (hab.entry r c hr hc (hab.nrows ▸ hr) (hab.ncols ▸ hc))
      (hbc.entry r c _ _ hr' hc')

theorem EqualEntries.congr (h : a.EqualEntries b) : a.EqualEntries c ↔ b.EqualEntries c :=
  ⟨h.symm.trans, h.trans⟩

theorem equalEntries_self_iff :
    a.EqualEntries a ↔ ∀ r c, (a.entry r c).isNaN = false := by
  constructor
  · intro h r c
    exact (Binary64.beq_self_iff _).1 (h.entry r c r.2 c.2 r.2 c.2)
  · intro h
    exact ⟨rfl, rfl, fun r c hr hc _ _ => (Binary64.beq_self_iff _).2 (h ⟨r, hr⟩ ⟨c, hc⟩)⟩

end QuadOpt.Matrix
