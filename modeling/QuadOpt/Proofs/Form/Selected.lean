import QuadOpt.Proofs.Form.Bounded
import QuadOpt.Proofs.Form.Guarded

/-!
# Pruning is filtering

Pruning drops right-hand sides and rows of the matrix apart, and returns the block as it came where
nothing is to be dropped. In effect it filters the list of rows, each with its right-hand side. So
pruning once is enough, and blocks can be pruned before or after one is put below the other.
-/

namespace QuadOpt

namespace OneSided

/-- One block below another of the same width. -/
def append (b c : OneSided) (h : c.mat.ncols = b.mat.ncols) : OneSided :=
  ⟨.vstack [⟨b.mat, rfl⟩, ⟨c.mat, h⟩], b.rhs ++ c.rhs⟩

theorem even_append {b c : OneSided} (hb : b.Even) (hc : c.Even) (h : c.mat.ncols = b.mat.ncols) :
    (b.append c h).Even := by
  unfold Even at hb hc ⊢
  unfold append numRows
  simp [hb, hc, numRows]

theorem pairs_append {b : OneSided} (hb : b.Even) (c : OneSided)
    (h : c.mat.ncols = b.mat.ncols) : (b.append c h).pairs = b.pairs ++ c.pairs := by
  have hlength : b.mat.toLists.length = b.rhs.length := by
    rw [Matrix.length_toLists]
    exact hb
  unfold pairs append
  rw [Matrix.toLists_vstack_cons, Matrix.toLists_vstack_cons, Matrix.toLists_vstack_nil,
    List.append_nil, List.zip_append hlength]

/-- Where rows and right-hand sides match, a block is its rows and its width. -/
theorem eq_of_pairs_eq {b c : OneSided} (hb : b.Even) (hc : c.Even)
    (hcols : b.mat.ncols = c.mat.ncols) (h : b.pairs = c.pairs) : b = c := by
  have hmat : b.mat = c.mat :=
    Matrix.eq_of_toLists_eq hcols (by rw [← map_fst_pairs hb, ← map_fst_pairs hc, h])
  have hrhs : b.rhs = c.rhs := by rw [← map_snd_pairs hb, ← map_snd_pairs hc, h]
  obtain ⟨mat, rhs⟩ := b
  obtain ⟨mat', rhs'⟩ := c
  cases hmat
  cases hrhs
  rfl

theorem prune_prune {b : OneSided} (h : b.Even) : b.prune.prune = b.prune := by
  have honce := even_prune h
  refine eq_of_pairs_eq (even_prune honce) honce (ncols_prune _) ?_
  rw [pairs_prune honce, pairs_prune h, List.filter_filter]
  simp only [Bool.and_self]

theorem ncols_prune_eq {b c : OneSided} (h : c.mat.ncols = b.mat.ncols) :
    c.prune.mat.ncols = b.prune.mat.ncols := by
  rw [ncols_prune, ncols_prune, h]

theorem prune_append {b c : OneSided} (hb : b.Even) (hc : c.Even)
    (h : c.mat.ncols = b.mat.ncols) :
    (b.append c h).prune = b.prune.append c.prune (ncols_prune_eq h) := by
  have hboth := even_append hb hc h
  have happart := even_append (even_prune hb) (even_prune hc) (ncols_prune_eq h)
  refine eq_of_pairs_eq (even_prune hboth) happart ?_ ?_
  · rw [ncols_prune]
    exact (ncols_prune b).symm
  · rw [pairs_prune hboth, pairs_append hb, List.filter_append, pairs_append (even_prune hb),
      pairs_prune hb, pairs_prune hc]

theorem prune_eq_self {b : OneSided} (hnumbers : ∀ v ∈ b.rhs, v.isNaN = false)
    (hbinding : ∀ v ∈ b.rhs, bound v < bindingLimit) : b.prune = b := by
  have hall : b.rhs.filter binds = b.rhs :=
    List.filter_eq_self.2 fun v hv => (binds_iff (hnumbers v hv)).2 (hbinding v hv)
  unfold prune
  dsimp only
  exact if_pos (congrArg List.length hall)

theorem pairs_prune_eq_filter {b : OneSided} (h : b.Even)
    (hnumbers : ∀ v ∈ b.rhs, v.isNaN = false) :
    b.prune.pairs = b.pairs.filter fun row => bound row.2 < bindingLimit := by
  rw [pairs_prune h]
  refine List.filter_congr fun row hrow => ?_
  rw [Bool.eq_iff_iff, binds_iff (hnumbers row.2 (List.of_mem_zip hrow).2), decide_eq_true_iff]

/-- Pruning keeps, in their order, the rows whose right-hand sides are below the limit, each with its
own. It does so whether it picks the rows or finds that it can keep all of them. -/
theorem prune_filters (b : OneSided) (h : b.Even) (hnumbers : ∀ v ∈ b.rhs, v.isNaN = false) :
    b.prune.Even ∧ b.prune.mat.ncols = b.mat.ncols ∧
      (b.prune.pairs = b.pairs.filter fun row => bound row.2 < bindingLimit) ∧
      b.prune.prune = b.prune ∧
      (∀ (c : OneSided) (_ : c.Even) (hcols : c.mat.ncols = b.mat.ncols),
        (b.append c hcols).prune = b.prune.append c.prune (ncols_prune_eq hcols)) ∧
      Guarded.prune b = .ok b.prune ∧ Guarded.selectBinding b = .ok b.prune ∧
      ((∀ v ∈ b.rhs, bound v < bindingLimit) → b.prune = b) :=
  ⟨even_prune h, b.ncols_prune, pairs_prune_eq_filter h hnumbers, prune_prune h,
    fun _ hc hcols => prune_append h hc hcols, Guarded.prune_eq_ok h, Guarded.selectBinding_eq_ok h,
    prune_eq_self hnumbers⟩

/-- A row that can bind, one at the limit, and one that is infinite the other way. -/
def partlyInfinite : OneSided := ⟨.ofLists 1 [[1], [2], [-1]], [5, 1e20, negativeInfinity]⟩

def oneRow : OneSided := ⟨.ofLists 1 [[3]], [1e21]⟩

theorem ncols_oneRow : oneRow.mat.ncols = partlyInfinite.mat.ncols := by
  simp only [oneRow, partlyInfinite, Matrix.ofLists]

theorem prune_filters_partlyInfinite :
    partlyInfinite.Even ∧ (∀ v ∈ partlyInfinite.rhs, v.isNaN = false) ∧ oneRow.Even ∧
      partlyInfinite.prune.prune.pairs = [([1], 5), ([-1], negativeInfinity)] ∧
      (partlyInfinite.append oneRow ncols_oneRow).prune.pairs =
        [([1], 5), ([-1], negativeInfinity)] := by
  have heven : partlyInfinite.Even := rfl
  have hrow : oneRow.Even := rfl
  have hnumbers : ∀ v ∈ partlyInfinite.rhs, v.isNaN = false := by
    intro v hv
    simp only [partlyInfinite, List.mem_cons, List.not_mem_nil, or_false] at hv
    rcases hv with rfl | rfl | rfl <;> decide +kernel
  obtain ⟨-, -, -, htwice, hbelow, -⟩ := prune_filters partlyInfinite heven hnumbers
  refine ⟨heven, hnumbers, hrow, ?_, ?_⟩
  · rw [htwice]
    decide +kernel
  · rw [hbelow oneRow hrow ncols_oneRow]
    decide +kernel

end OneSided

end QuadOpt
