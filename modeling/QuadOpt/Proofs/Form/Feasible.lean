import QuadOpt.Form.Ranges
import QuadOpt.Proofs.Form.Prune
import QuadOpt.Proofs.Form.Rows
import QuadOpt.Sample

/-!
# The feasible set

What it takes for a point to be feasible, in exact arithmetic: for a problem as it is stated, for flat
rows as they are read, and for two-sided rows. Bounds may be infinite, and crossed ones leave no point.
No property of the entries is asked for, since each form holds the same entries in other places.
-/

namespace QuadOpt

/-! ## Rows and their bounds -/

/-- Each value is in relation with the bound at its place, and there are as many of them. -/
def Each (R : EReal → EReal → Prop) (vs : List ℝ) (bs : List Float) : Prop :=
  List.Forall₂ (fun (v : ℝ) b => R v (bound b)) vs bs

section

variable {R : EReal → EReal → Prop} {vs ws : List ℝ} {bs cs : List Float}

theorem Each.imp {S : EReal → EReal → Prop} (h : ∀ v b, R v b → S v b) (hall : Each R vs bs) :
    Each S vs bs :=
  List.Forall₂.imp (fun _ _ => h _ _) hall

theorem each_append (h : vs.length = bs.length) :
    Each R (vs ++ ws) (bs ++ cs) ↔ Each R vs bs ∧ Each R ws cs := by
  unfold Each
  constructor
  · intro hall
    have htake := List.forall₂_take bs.length hall
    have hdrop := List.forall₂_drop bs.length hall
    rw [List.take_left' h, List.take_left' rfl] at htake
    rw [List.drop_left' h, List.drop_left' rfl] at hdrop
    exact ⟨htake, hdrop⟩
  · rintro ⟨hvs, hws⟩
    exact List.rel_append hvs hws

theorem each_map_neg :
    Each R (vs.map (-·)) (bs.map (-·)) ↔ Each (fun v b => R (-v) (-b)) vs bs := by
  simp only [Each, List.forall₂_map_left_iff, List.forall₂_map_right_iff, EReal.coe_neg, bound_neg]

theorem each_eq_iff : Each (· = ·) vs bs ↔ Each (· ≥ ·) vs bs ∧ Each (· ≤ ·) vs bs := by
  simp only [Each, List.forall₂_iff_zip]
  constructor
  · rintro ⟨hlength, heq⟩
    exact ⟨⟨hlength, fun h => (heq h).ge⟩, ⟨hlength, fun h => (heq h).le⟩⟩
  · rintro ⟨⟨hlength, hge⟩, -, hle⟩
    exact ⟨hlength, fun h => le_antisymm (hle h) (hge h)⟩

theorem bound_negativeInfinity : bound negativeInfinity = ⊥ := by
  rw [bound, show Binary64.ofFloat negativeInfinity = .infinite true by decide +kernel]
  rfl

theorem each_ge_negativeInfinity {n : Nat} (h : vs.length = n) :
    Each (· ≥ ·) vs (List.replicate n negativeInfinity) := by
  subst h
  induction vs with
  | nil => exact .nil
  | cons v vs ih => exact .cons (by simp [bound_negativeInfinity]) ih

end

/-! ## Points that meet a problem -/

/-- A point that meets all constraints of the problem. -/
structure CheckedProblem.Feasible (p : CheckedProblem) (x : List ℝ) : Prop where
  equalities : Each (· = ·) (p.problem.eqMat.product x) p.problem.eqVec
  inequalities : Each (· ≤ ·) (p.problem.ineqMat.product x) p.problem.ineqVec
  lower : Each (· ≥ ·) x p.problem.xMin
  upper : Each (· ≤ ·) x p.problem.xMax

noncomputable def FlatRows.product (rows : FlatRows) (n : Nat) (x : List ℝ) : List ℝ :=
  (chunks n rows.rhs.length rows.entries).map (dot · x)

/-- A point that meets flat rows of width `n`: the first ones with equality, and the others from
below. -/
structure FlatRows.Feasible (rows : FlatRows) (n : Nat) (x : List ℝ) : Prop where
  equalities :
    Each (· = ·) ((rows.product n x).take rows.equalities) (rows.rhs.take rows.equalities)
  inequalities :
    Each (· ≤ ·) ((rows.product n x).drop rows.equalities) (rows.rhs.drop rows.equalities)

structure Ranges.Feasible (r : Ranges) (x : List ℝ) : Prop where
  lower : Each (· ≥ ·) (r.mat.product x) r.lower
  upper : Each (· ≤ ·) (r.mat.product x) r.upper

namespace CheckedProblem

variable (p : CheckedProblem) {x : List ℝ}

theorem length_product_eqMat (x : List ℝ) :
    (p.problem.eqMat.product x).length = p.problem.eqVec.length := by
  rw [Matrix.length_product, p.eqMat_shape.1, p.eqVec_length]

theorem length_product_ineqMat (x : List ℝ) :
    (p.problem.ineqMat.product x).length = p.problem.ineqVec.length := by
  rw [Matrix.length_product, p.ineqMat_shape.1, p.ineqVec_length]

theorem product_unitBlock (hx : x.length = p.dims.var) : p.unitBlock.1.product x = x := by
  show (Matrix.identity p.dims.var).product x = x
  rw [← hx, Matrix.product_identity]

theorem product_negatedUnitBlock (hx : x.length = p.dims.var) :
    p.negatedUnitBlock.1.product x = x.map (-·) := by
  show ((Matrix.identity p.dims.var).map (-·)).product x = x.map (-·)
  rw [Matrix.product_map_neg, ← hx, Matrix.product_identity]

/-! ## Flat rows -/

theorem product_oneSided (hx : x.length = p.dims.var) :
    p.oneSided.mat.product x = p.problem.ineqMat.product x ++ (x ++ x.map (-·)) := by
  simp [oneSided, ineqBlock, p.product_unitBlock hx, p.product_negatedUnitBlock hx]

theorem each_oneSided (R : EReal → EReal → Prop) (hx : x.length = p.dims.var) :
    Each R (p.oneSided.mat.product x) p.oneSided.rhs ↔
      Each R (p.problem.ineqMat.product x) p.problem.ineqVec ∧
        Each R x p.problem.xMax ∧ Each (fun v b => R (-v) (-b)) x p.problem.xMin := by
  rw [p.product_oneSided hx, oneSided, List.append_assoc, each_append (p.length_product_ineqMat x),
    each_append (hx.trans p.xMax_length.symm), each_map_neg]

theorem feasible_iff_oneSided (hx : x.length = p.dims.var) :
    p.Feasible x ↔ Each (· = ·) (p.problem.eqMat.product x) p.problem.eqVec ∧
      Each (· ≤ ·) (p.oneSided.mat.product x) p.oneSided.rhs := by
  rw [p.each_oneSided _ hx]
  simp only [EReal.neg_le_neg_iff]
  constructor
  · rintro ⟨hequal, hineq, hlower, hupper⟩
    exact ⟨hequal, hineq, hupper, hlower⟩
  · rintro ⟨hequal, hineq, hupper, hlower⟩
    exact ⟨hequal, hineq, hlower, hupper⟩

theorem product_flatRows (x : List ℝ) :
    p.flatRows.product p.dims.var x = p.problem.eqMat.product x ++ p.oneSided.mat.product x := by
  have hrows : p.flatRows.rhs.length =
      (Matrix.vstack [p.eqBlock, ⟨p.oneSided.mat, p.ncols_oneSided⟩]).nrows := by
    have heven : p.oneSided.mat.nrows = p.oneSided.rhs.length := p.even_oneSided
    simp [flatRows, eqBlock, heven, p.eqMat_shape.1, p.eqVec_length]
  have hchunks := Matrix.chunks_rowMajor
    (Matrix.vstack [p.eqBlock, ⟨p.oneSided.mat, p.ncols_oneSided⟩])
  rw [Matrix.ncols_vstack] at hchunks
  rw [FlatRows.product, hrows, flatRows, hchunks, ← Matrix.product, Matrix.product_vstack_cons,
    Matrix.product_vstack_cons, Matrix.product_vstack_nil, List.append_nil]
  rfl

theorem feasible_flatRows_iff (hx : x.length = p.dims.var) :
    p.flatRows.Feasible p.dims.var x ↔ p.Feasible x := by
  have heq : (p.problem.eqMat.product x).length = p.dims.eq := by
    rw [p.length_product_eqMat, p.eqVec_length]
  rw [p.feasible_iff_oneSided hx]
  constructor
  · rintro ⟨hequal, hle⟩
    rw [p.product_flatRows, flatRows, List.take_left' heq, List.take_left' p.eqVec_length]
      at hequal
    rw [p.product_flatRows, flatRows, List.drop_left' heq, List.drop_left' p.eqVec_length] at hle
    exact ⟨hequal, hle⟩
  · rintro ⟨hequal, hle⟩
    constructor
    · rwa [p.product_flatRows, flatRows, List.take_left' heq, List.take_left' p.eqVec_length]
    · rwa [p.product_flatRows, flatRows, List.drop_left' heq, List.drop_left' p.eqVec_length]

/-! ## Two-sided rows -/

theorem product_stackedRangesWithBounds (hx : x.length = p.dims.var) :
    p.stackedRangesWithBounds.mat.product x =
      p.problem.eqMat.product x ++ (p.problem.ineqMat.product x ++ x) := by
  simp [stackedRangesWithBounds, eqBlock, ineqBlock, p.product_unitBlock hx]

theorem lower_stackedRangesWithBounds :
    p.stackedRangesWithBounds.lower =
      p.problem.eqVec ++ (List.replicate p.dims.ineq negativeInfinity ++ p.problem.xMin) :=
  List.append_assoc _ _ _

theorem upper_stackedRangesWithBounds :
    p.stackedRangesWithBounds.upper =
      p.problem.eqVec ++ (p.problem.ineqVec ++ p.problem.xMax) :=
  List.append_assoc _ _ _

theorem feasible_stackedRangesWithBounds_iff (hx : x.length = p.dims.var) :
    p.stackedRangesWithBounds.Feasible x ↔ p.Feasible x := by
  have hineq : (p.problem.ineqMat.product x).length = p.dims.ineq := by
    rw [p.length_product_ineqMat, p.ineqVec_length]
  have hlower : Each (· ≥ ·) (p.stackedRangesWithBounds.mat.product x)
      p.stackedRangesWithBounds.lower ↔
        Each (· ≥ ·) (p.problem.eqMat.product x) p.problem.eqVec ∧
          Each (· ≥ ·) x p.problem.xMin := by
    rw [p.product_stackedRangesWithBounds hx, p.lower_stackedRangesWithBounds,
      each_append (p.length_product_eqMat x), each_append (by rw [hineq, List.length_replicate])]
    simp only [each_ge_negativeInfinity hineq, true_and]
  have hupper : Each (· ≤ ·) (p.stackedRangesWithBounds.mat.product x)
      p.stackedRangesWithBounds.upper ↔
        Each (· ≤ ·) (p.problem.eqMat.product x) p.problem.eqVec ∧
          Each (· ≤ ·) (p.problem.ineqMat.product x) p.problem.ineqVec ∧
            Each (· ≤ ·) x p.problem.xMax := by
    rw [p.product_stackedRangesWithBounds hx, p.upper_stackedRangesWithBounds,
      each_append (p.length_product_eqMat x), each_append (p.length_product_ineqMat x)]
  constructor
  · rintro ⟨hl, hu⟩
    obtain ⟨hge, hmin⟩ := hlower.1 hl
    obtain ⟨hle, hbelow, hmax⟩ := hupper.1 hu
    exact ⟨each_eq_iff.2 ⟨hge, hle⟩, hbelow, hmin, hmax⟩
  · rintro ⟨hequal, hbelow, hmin, hmax⟩
    obtain ⟨hge, hle⟩ := each_eq_iff.1 hequal
    exact ⟨hlower.2 ⟨hge, hmin⟩, hupper.2 ⟨hle, hbelow, hmax⟩⟩

/-- The problem, its flat rows and its two-sided rows have the same feasible points. -/
theorem feasible_forms (p : CheckedProblem) (x : List ℝ) (hx : x.length = p.dims.var) :
    (p.Feasible x ↔ p.flatRows.Feasible p.dims.var x) ∧
      (p.Feasible x ↔ p.stackedRangesWithBounds.Feasible x) :=
  ⟨(p.feasible_flatRows_iff hx).symm, (p.feasible_stackedRangesWithBounds_iff hx).symm⟩

/-! ## An instance -/

/-- One equality, nonnegative variables, and upper bounds that are infinite. -/
def oneEquality : CheckedProblem := ⟨Sample.oneEquality.problem, fun f => by cases f <;> rfl⟩

theorem bound_infinity : bound Sample.infinity = ⊤ := by
  rw [bound, show Binary64.ofFloat Sample.infinity = .infinite false by decide +kernel]
  rfl

theorem feasible_oneEquality : oneEquality.Feasible [1 / 4, 3 / 4] where
  equalities := by
    have hrow : oneEquality.problem.eqMat.product [1 / 4, 3 / 4] = [1] := by
      show [dot [1, 1] [1 / 4, 3 / 4]] = _
      norm_num [dot, coefficient_one]
    rw [hrow]
    exact .cons (by simp [bound_one]) .nil
  inequalities := .nil
  lower := by
    refine .cons ?_ (.cons ?_ .nil) <;> rw [bound_zero] <;> norm_num
  upper := by
    refine .cons ?_ (.cons ?_ .nil) <;> rw [bound_infinity] <;> exact le_top

theorem feasible_forms_oneEquality :
    oneEquality.flatRows.Feasible 2 [1 / 4, 3 / 4] ∧
      oneEquality.stackedRangesWithBounds.Feasible [1 / 4, 3 / 4] := by
  have hforms := feasible_forms oneEquality [1 / 4, 3 / 4] rfl
  exact ⟨hforms.1.1 feasible_oneEquality, hforms.2.1 feasible_oneEquality⟩

end CheckedProblem

end QuadOpt
