import QuadOpt.Form.Cone

/-!
# Dropped rows

A block seen as its rows, each with its right-hand side. Dropping the rows that cannot bind filters
this list. Matrix and right-hand sides are filtered apart, but stay in step.
-/

namespace QuadOpt

namespace OneSided

/-- The rows, each with its right-hand side. -/
def pairs (b : OneSided) : List (List Float × Float) := b.mat.toLists.zip b.rhs

def Even (b : OneSided) : Prop := b.mat.nrows = b.numRows

theorem map_fst_rows {b : OneSided} (h : b.Even) : (b.mat.rows.zip b.rhs).map (·.1) = b.mat.rows :=
  List.map_fst_zip (Nat.le_of_eq h)

theorem map_snd_rows {b : OneSided} (h : b.Even) : (b.mat.rows.zip b.rhs).map (·.2) = b.rhs :=
  List.map_snd_zip (Nat.le_of_eq h.symm)

theorem map_fst_pairs {b : OneSided} (h : b.Even) : b.pairs.map (·.1) = b.mat.toLists :=
  List.map_fst_zip (by rw [Matrix.length_toLists]; exact Nat.le_of_eq h)

theorem map_snd_pairs {b : OneSided} (h : b.Even) : b.pairs.map (·.2) = b.rhs :=
  List.map_snd_zip (by rw [Matrix.length_toLists]; exact Nat.le_of_eq h.symm)

/-- The rows that can bind, at their width. -/
def boundRows (b : OneSided) : List (Vector Float b.mat.ncols × Float) :=
  (b.mat.rows.zip b.rhs).filter (binds ·.2)

theorem map_snd_boundRows {b : OneSided} (h : b.Even) :
    b.boundRows.map (·.2) = b.rhs.filter binds := by
  calc b.boundRows.map (·.2)
      = ((b.mat.rows.zip b.rhs).map (·.2)).filter binds := by rw [boundRows, List.filter_map]; rfl
    _ = b.rhs.filter binds := by rw [map_snd_rows h]

/-- Where nothing is dropped the block is returned as it is, which is what filtering gives too. -/
theorem prune_eq {b : OneSided} (h : b.Even) :
    b.prune = ⟨⟨b.mat.ncols, b.boundRows.map (·.1)⟩, b.rhs.filter binds⟩ := by
  unfold prune
  dsimp only
  split
  case isTrue hkept =>
    have hall := List.length_filter_eq_length_iff.1 hkept
    have hrows : b.boundRows = b.mat.rows.zip b.rhs :=
      List.filter_eq_self.2 fun _ hx => hall _ (List.of_mem_zip hx).2
    rw [hrows, map_fst_rows h, List.filter_eq_self.2 hall]
  case isFalse => rfl

theorem even_prune {b : OneSided} (h : b.Even) : b.prune.Even := by
  rw [prune_eq h, ← map_snd_boundRows h]
  simp [Even, Matrix.nrows, numRows]

theorem pairs_prune {b : OneSided} (h : b.Even) :
    b.prune.pairs = b.pairs.filter (binds ·.2) := by
  rw [prune_eq h, ← map_snd_boundRows h, pairs, Matrix.toLists, List.map_map, List.zip_map', pairs,
    Matrix.toLists, List.zip_map_left, List.filter_map]
  rfl

end OneSided

namespace CheckedProblem

variable (p : CheckedProblem)

theorem even_oneSided : p.oneSided.Even := by
  have hmat : p.oneSided.mat.nrows = p.dims.ineq + (p.dims.var + p.dims.var) := by
    simp [oneSided, ineqBlock, unitBlock, negatedUnitBlock, p.ineqMat_shape.1]
  have hrhs : p.oneSided.numRows = p.dims.ineq + p.dims.var + p.dims.var := by
    simp [oneSided, OneSided.numRows, p.ineqVec_length, p.xMax_length, p.xMin_length,
      Nat.add_assoc]
  rw [OneSided.Even, hmat, hrhs, Nat.add_assoc]

theorem even_boundedRows : p.boundedRows.Even := OneSided.even_prune p.even_oneSided

end CheckedProblem

end QuadOpt
