import QuadOpt.Proofs.Matrix.Compressed
import QuadOpt.Proofs.Number.Comparison
import QuadOpt.Proofs.Workspace.WarmStart
import QuadOpt.Sample

/-!
# Which rows reach the method

Two adapters leave out rows that cannot bind. A row stays just if its right-hand side is a number
below the infinite bound. So a right-hand side that is no number takes its row away, although nothing
says that it is infinite.
-/

namespace QuadOpt

/-! ## Right-hand sides that bind -/

namespace OneSided

theorem binds_iff_not_le (v : Float) : binds v = true ↔ v.isNaN = false ∧ ¬ infinityBound ≤ v := by
  have hbound : infinityBound.isNaN = false := by decide +kernel
  rw [binds, decide_eq_true_iff]
  cases hv : v.isNaN with
  | true => simp [Binary64.not_lt_of_isNaN hv]
  | false => simp [Binary64.lt_iff_not_le hv hbound]

end OneSided

namespace CheckedProblem

variable (p : CheckedProblem)

/-- The rows of the one-sided block whose right-hand side is a number below the infinite bound. -/
def keptRows : List (List Float × Float) :=
  p.oneSided.pairs.filter fun row => !row.2.isNaN && !decide (infinityBound ≤ row.2)

theorem pairs_boundedRows : p.boundedRows.pairs = p.keptRows := by
  rw [boundedRows, OneSided.pairs_prune p.even_oneSided, keptRows]
  refine List.filter_congr fun row _ => ?_
  rw [Bool.eq_iff_iff, OneSided.binds_iff_not_le]
  simp

theorem numRows_boundedRows : p.boundedRows.numRows = p.keptRows.length := by
  have heven : p.boundedRows.mat.nrows = p.boundedRows.numRows := p.even_boundedRows
  rw [← p.pairs_boundedRows, OneSided.pairs, List.length_zip, Matrix.length_toLists, heven]
  exact (Nat.min_self _).symm

/-! ## Cone form -/

def equalityRows : List (List Float × Float) := p.problem.eqMat.toLists.zip p.problem.eqVec

/-- The rows of the nonnegative cone. Where no row is left at all there is one that holds anyway. -/
def conicRows : List (List Float × Float) :=
  if p.dims.eq = 0 ∧ p.keptRows = [] then [(List.replicate p.dims.var 0, 1)] else p.keptRows

theorem length_equalityRows : p.equalityRows.length = p.dims.eq := by
  simp [equalityRows, p.eqMat_shape.1, p.eqVec_length]

theorem conesOf_boundedRows_eq_nil_iff :
    conesOf p.dims.eq p.boundedRows.numRows = [] ↔ p.dims.eq = 0 ∧ p.keptRows = [] := by
  rw [conesOf_eq_nil_iff, p.numRows_boundedRows, List.length_eq_zero_iff]

theorem toLists_stacked :
    (Matrix.vstack [p.eqBlock, ⟨p.boundedRows.mat, p.ncols_boundedRows⟩]).toLists =
      p.problem.eqMat.toLists ++ p.boundedRows.mat.toLists := by
  simp [eqBlock]

theorem rows_coneForm :
    p.coneForm.mat.toLists.zip p.coneForm.rhs = p.equalityRows ++ p.conicRows := by
  by_cases h : conesOf p.dims.eq p.boundedRows.numRows = []
  · have hnone := p.conesOf_boundedRows_eq_nil_iff.1 h
    have hequal : p.equalityRows = [] :=
      List.eq_nil_of_length_eq_zero (p.length_equalityRows.trans hnone.1)
    have hzeros : (Matrix.zeros 1 p.dims.var : Matrix Float).toLists =
        [List.replicate p.dims.var 0] := by
      simp [Matrix.zeros, Matrix.ofFn, Matrix.toLists, Vector.toList_ofFn]
    rw [p.coneForm_of_nil h, conicRows, if_pos hnone, hequal, hzeros]
    rfl
  · have hsome := mt p.conesOf_boundedRows_eq_nil_iff.2 h
    have hlength : p.problem.eqMat.toLists.length = p.problem.eqVec.length := by
      rw [Matrix.length_toLists, p.eqMat_shape.1, p.eqVec_length]
    rw [p.coneForm_of_ne_nil h, conicRows, if_neg hsome, toLists_stacked,
      List.zip_append hlength, equalityRows, ← p.pairs_boundedRows, OneSided.pairs]

end CheckedProblem

namespace Workspace

/-- The data hold the given rows with their right-hand sides. A zero is not stored. -/
structure Data.HoldsRows (d : Data interiorPoint) (rows : List (List Float × Float)) : Prop where
  count : d.constraints.nrows = rows.length
  rhs : d.rhs = rows.map (·.2)
  entry : ∀ r c v, (r, c, v) ∈ d.constraints.triples ↔
    (v != 0) = true ∧ ∃ row, rows[r]? = some row ∧ row.1[c]? = some v

theorem holdsRows_dataOf (p : CheckedProblem) :
    (dataOf interiorPoint p).HoldsRows (p.equalityRows ++ p.conicRows) := by
  have hlength : p.coneForm.mat.toLists.length = p.coneForm.rhs.length := by
    rw [Matrix.length_toLists, p.length_rhs_coneForm]
  have hrhs : (p.equalityRows ++ p.conicRows).map (·.2) = p.coneForm.rhs := by
    rw [← p.rows_coneForm]
    exact List.map_snd_zip hlength.ge
  have hmat : (p.equalityRows ++ p.conicRows).map (·.1) = p.coneForm.mat.toLists := by
    rw [← p.rows_coneForm]
    exact List.map_fst_zip hlength.le
  constructor
  · have hcount := congrArg List.length hmat
    rw [List.length_map, Matrix.length_toLists] at hcount
    exact hcount.symm
  · exact hrhs.symm
  · intro r c v
    show (r, c, v) ∈ (Csc.ofMatrix .full p.coneForm.mat).triples ↔ _
    rw [Csc.mem_triples_ofMatrix_iff, Matrix.hasEntry_iff_toLists, ← hmat]
    simp only [List.getElem?_map, Option.map_eq_some_iff, Triangle.covers, true_and]
    constructor
    · rintro ⟨⟨_, ⟨row, hrow, rfl⟩, hv⟩, hzero⟩
      exact ⟨hzero, row, hrow, hv⟩
    · rintro ⟨hzero, row, hrow, hv⟩
      exact ⟨⟨row.1, ⟨row, hrow, rfl⟩, hv⟩, hzero⟩

variable {B : Backend interiorPoint} {s t : State interiorPoint B} {p : CheckedProblem}
  {cs : List (Call interiorPoint)}

/-- No setup is ever refused, so a problem with variables is run, if only after refused changes. -/
theorem Solved.run_mem (h : Solved s p cs t) (hvar : p.dims.var ≠ 0) : .run ∈ cs := by
  have hcold : .run ∈ (s.coldSolve (dataOf interiorPoint p) (s.stale p)).calls := by
    rw [s.calls_coldSolve]
    cases B.setup (dataOf interiorPoint p) s.config.settings with
    | error refusal => exact refusal.elim
    | ok memory => simp
  cases h with
  | withoutVariables hnone => exact absurd hnone hvar
  | crossed _ hrow => cases hrow
  | cold => exact hcold
  | warm _ _ _ _ hok =>
    obtain ⟨left, hupdate⟩ := s.exists_update_of_succeeded hok
    rw [s.calls_of_update _ _ hupdate]
    simp
  | retried => exact List.mem_append_right _ hcold

end Workspace

namespace Conic

def Data.inequalities (d : Data) : List (List Float × Float) := d.ineqMat.toLists.zip d.ineqRhs

theorem inequalities_dataOf (p : CheckedProblem) : (dataOf p).inequalities = p.keptRows :=
  p.pairs_boundedRows

theorem State.calls_solve (B : Backend) (s : State) {p : CheckedProblem} (hvar : p.dims.var ≠ 0) :
    (s.solve B p).calls = [.solve (dataOf p) s.config] := by
  unfold solve coldSolve
  simp only [if_neg hvar]
  cases B.solve (dataOf p) s.config <;> simp

end Conic

/-! ## What is handed over -/

namespace CheckedProblem

/-- Whatever was solved before, what the two methods are given to solve a problem holds the kept rows
of its one-sided block, each with its right-hand side, in their order, and no other row of it. -/
theorem kept_rows_handed_over (p : CheckedProblem) (hvar : 0 < p.dims.var) :
    (∀ (B : Conic.Backend) (s : Conic.State),
      (s.solve B p).calls = [.solve (Conic.dataOf p) s.config]) ∧
    (Conic.dataOf p).inequalities = p.keptRows ∧
    (∀ (B : Workspace.Backend interiorPoint) (config : WorkspaceConfig InteriorPointSettings)
        (xs : List Step),
      let past := (Workspace.machine B).run (.new config) xs
      let calls := (past.value.solve p).calls
      .run ∈ calls ∧ Workspace.Held.RunsOn B (Workspace.dataOf interiorPoint p)
        past.value.config.settings (Workspace.Held.calls B none past.calls) calls) ∧
    (Workspace.dataOf interiorPoint p).HoldsRows (p.equalityRows ++ p.conicRows) ∧
    (Workspace.dataOf interiorPoint p).cones = conesOf p.dims.eq p.conicRows.length := by
  refine ⟨fun B s => Conic.State.calls_solve B s hvar.ne', Conic.inequalities_dataOf p, ?_,
    Workspace.holdsRows_dataOf p, ?_⟩
  · intro B config xs past calls
    have hsolved := past.value.solve_solved p
    exact ⟨hsolved.run_mem hvar.ne',
      hsolved.runsOn interiorPoint_fixesCones
        (Workspace.keeps_run interiorPoint_fixesCones config xs)⟩
  · have hrows := (Workspace.holdsRows_dataOf p).count
    rw [List.length_append, p.length_equalityRows] at hrows
    have hnrows : p.coneForm.mat.nrows - p.dims.eq = p.conicRows.length := by
      rw [show p.coneForm.mat.nrows = p.dims.eq + p.conicRows.length from hrows,
        Nat.add_sub_cancel_left]
    rw [← hnrows]
    exact p.cones_coneForm

/-- An infinite row, an infinite bound below, and a bound above that is no number. -/
def partlyBounded : CheckedProblem where
  problem :=
    { Problem.new ⟨2, 0, 1⟩ with
      ineqMat := .ofLists 2 [[1, 1]], ineqVec := [1e20]
      xMin := [-Sample.infinity, 0], xMax := [0 / 0, 5] }
  fits f := by cases f <;> rfl

theorem keptRows_partlyBounded : partlyBounded.keptRows = [([0, 1], 5), ([-0.0, -1], -0.0)] := by
  decide +kernel

theorem kept_rows_handed_over_partlyBounded :
    (Conic.dataOf partlyBounded).inequalities = [([0, 1], 5), ([-0.0, -1], -0.0)] ∧
      (Workspace.dataOf interiorPoint partlyBounded).HoldsRows
        [([0, 1], 5), ([-0.0, -1], -0.0)] ∧
      (Workspace.dataOf interiorPoint partlyBounded).cones = [.nonnegative 2] := by
  have hconicRows : partlyBounded.conicRows = [([0, 1], 5), ([-0.0, -1], -0.0)] := by
    rw [conicRows, keptRows_partlyBounded]
    rfl
  obtain ⟨-, hconic, -, hrows, hcones⟩ := kept_rows_handed_over partlyBounded (by decide)
  rw [keptRows_partlyBounded] at hconic
  rw [hconicRows] at hrows hcones
  exact ⟨hconic, hrows, hcones⟩

/-- The bound that is no number is not at or beyond the infinite one, and its row is gone. -/
theorem row_lost_partlyBounded :
    let row : List Float × Float := ([1, 0], 0 / 0)
    0 < partlyBounded.dims.var ∧ row ∈ partlyBounded.oneSided.pairs ∧ ¬ infinityBound ≤ row.2 ∧
      row ∉ (Conic.dataOf partlyBounded).inequalities ∧
      ∀ rows, (Workspace.dataOf interiorPoint partlyBounded).HoldsRows rows → row ∉ rows := by
  intro row
  have hplace : partlyBounded.oneSided.pairs[1]? = some row := by decide +kernel
  have hconic : (Conic.dataOf partlyBounded).inequalities = [([0, 1], 5), ([-0.0, -1], -0.0)] :=
    (Conic.inequalities_dataOf _).trans keptRows_partlyBounded
  have hrhs : (Workspace.dataOf interiorPoint partlyBounded).rhs = [5, -0.0] := by decide +kernel
  have hnumber (v : Float) (hv : v ∈ [5, -0.0]) : v.isNaN = false := by
    rcases List.mem_pair.1 hv with rfl | rfl <;> decide +kernel
  have hrow : row.2.isNaN = true := by decide +kernel
  refine ⟨by decide, List.mem_of_getElem? hplace, by decide +kernel, ?_, ?_⟩
  · intro hmem
    rw [hconic] at hmem
    have hv : row.2 ∈ [5, -0.0] := List.mem_map_of_mem hmem
    exact absurd (hnumber row.2 hv) (by rw [hrow]; decide)
  · intro rows hrows hmem
    have hv : row.2 ∈ rows.map (·.2) := List.mem_map_of_mem hmem
    rw [← hrows.rhs, hrhs] at hv
    exact absurd (hnumber row.2 hv) (by rw [hrow]; decide)

end CheckedProblem

end QuadOpt
