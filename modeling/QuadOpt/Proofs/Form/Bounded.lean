import QuadOpt.Adapter.Conic
import QuadOpt.Proofs.Form.Cones
import QuadOpt.Proofs.Form.Feasible

/-!
# The feasible set without unbounded rows

Two forms leave out the rows whose right-hand side counts as infinite. What they describe is the
feasible set of the problem without those rows, whichever of equalities, inequalities and bounds there
are, and it is the whole feasible set if nothing but infinite bounds is left out.
-/

namespace QuadOpt

/-! ## Which rows are left out -/

/-- From this number on a bound counts as infinite. -/
noncomputable def bindingLimit : EReal := ((10 ^ 20 : ℝ) : EReal)

theorem bound_infinityBound : bound infinityBound = bindingLimit := by
  rw [bound, show Binary64.ofFloat infinityBound = .finite false 6103515625000000 14 by
    decide +kernel]
  norm_num [Binary64.value, Binary64.toReal, bindingLimit]

theorem binds_iff {b : Float} (h : b.isNaN = false) :
    OneSided.binds b = true ↔ bound b < bindingLimit := by
  rw [OneSided.binds, decide_eq_true_eq, Binary64.lt_iff h (by decide +kernel),
    ← bound_infinityBound]
  rfl

theorem zip_product (b : OneSided) (x : List ℝ) :
    (b.mat.product x).zip b.rhs = b.pairs.map fun r => (dot r.1 x, r.2) := by
  rw [Matrix.product, OneSided.pairs, List.zip_map_left]
  rfl

theorem each_iff_pairs {R : EReal → EReal → Prop} {b : OneSided} (h : b.Even) (x : List ℝ) :
    Each R (b.mat.product x) b.rhs ↔ ∀ r ∈ b.pairs, R (dot r.1 x) (bound r.2) := by
  have hlength : (b.mat.product x).length = b.rhs.length := by
    rw [Matrix.length_product]
    exact h
  rw [Each, List.forall₂_iff_zip, zip_product]
  constructor
  · rintro ⟨-, hall⟩ r hr
    exact hall (List.mem_map_of_mem hr)
  · intro hall
    refine ⟨hlength, fun hmem => ?_⟩
    obtain ⟨r, hr, heq⟩ := List.mem_map.1 hmem
    cases heq
    exact hall r hr

/-- In relation with the bound, if the bound is below the limit. -/
def Binding (R : EReal → EReal → Prop) (v b : EReal) : Prop := b < bindingLimit → R v b

/-- Meeting the rows that are kept is meeting the rows whose bounds are below the limit. -/
theorem each_prune {R : EReal → EReal → Prop} {b : OneSided} (h : b.Even)
    (hnumbers : ∀ v ∈ b.rhs, v.isNaN = false) (x : List ℝ) :
    Each R (b.prune.mat.product x) b.prune.rhs ↔
      Each (Binding R) (b.mat.product x) b.rhs := by
  rw [each_iff_pairs (OneSided.even_prune h), each_iff_pairs h, OneSided.pairs_prune h]
  simp only [List.mem_filter, and_imp, Binding]
  refine forall₂_congr fun r hr => ?_
  rw [binds_iff (hnumbers r.2 (List.of_mem_zip hr).2)]

/-! ## Points that meet the forms -/

/-- A point that meets the equalities and those inequalities and bounds that do not count as
infinite. -/
structure CheckedProblem.FeasibleBounded (p : CheckedProblem) (x : List ℝ) : Prop where
  equalities : Each (· = ·) (p.problem.eqMat.product x) p.problem.eqVec
  inequalities :
    Each (fun v b => b < bindingLimit → v ≤ b) (p.problem.ineqMat.product x) p.problem.ineqVec
  lower : Each (fun v b => -bindingLimit < b → b ≤ v) x p.problem.xMin
  upper : Each (fun v b => b < bindingLimit → v ≤ b) x p.problem.xMax

structure Conic.Data.Feasible (d : Conic.Data) (x : List ℝ) : Prop where
  equalities : Each (· = ·) (d.eqMat.product x) d.eqRhs
  inequalities : Each (· ≤ ·) (d.ineqMat.product x) d.ineqRhs

/-- What the values leave of the right-hand sides. -/
noncomputable def slacks (vs : List ℝ) (bs : List Float) : List EReal :=
  List.zipWith (fun (v : ℝ) b => bound b - v) vs bs

def Cone.Contains : Cone → List EReal → Prop
  | zero _, s => ∀ v ∈ s, v = 0
  | nonnegative _, s => ∀ v ∈ s, 0 ≤ v

/-- Each cone takes its rows off the front, and none are left over. -/
def Cone.ContainAll : List Cone → List EReal → Prop
  | [], s => s = []
  | c :: cs, s => c.Contains (s.take c.size) ∧ ContainAll cs (s.drop c.size)

/-- A point whose slack is in the cones. -/
def ConeForm.Feasible (f : ConeForm) (x : List ℝ) : Prop :=
  Cone.ContainAll f.cones (slacks (f.mat.product x) f.rhs)

namespace CheckedProblem

variable (p : CheckedProblem) {x : List ℝ}

theorem feasibleBounded_iff_oneSided (hx : x.length = p.dims.var) :
    p.FeasibleBounded x ↔ Each (· = ·) (p.problem.eqMat.product x) p.problem.eqVec ∧
      Each (Binding (· ≤ ·)) (p.oneSided.mat.product x) p.oneSided.rhs := by
  have hneg (b : EReal) : -b < bindingLimit ↔ -bindingLimit < b := EReal.neg_lt_comm
  rw [p.each_oneSided _ hx]
  simp only [Binding, EReal.neg_le_neg_iff, hneg]
  constructor
  · rintro ⟨hequal, hineq, hlower, hupper⟩
    exact ⟨hequal, hineq, hupper, hlower⟩
  · rintro ⟨hequal, hineq, hupper, hlower⟩
    exact ⟨hequal, hineq, hlower, hupper⟩

theorem feasible_conic_iff (hx : x.length = p.dims.var)
    (hnumbers : ∀ b ∈ p.oneSided.rhs, b.isNaN = false) :
    (Conic.dataOf p).Feasible x ↔ p.FeasibleBounded x := by
  rw [p.feasibleBounded_iff_oneSided hx, ← each_prune p.even_oneSided hnumbers]
  exact ⟨fun h => ⟨h.equalities, h.inequalities⟩, fun h => ⟨h.1, h.2⟩⟩

/-! ## Slacks -/

theorem sub_eq_zero_iff (b : EReal) (v : ℝ) : b - v = 0 ↔ (v : EReal) = b := by
  induction b with
  | bot => simp
  | top => simp
  | coe b =>
    rw [← EReal.coe_sub, EReal.coe_eq_zero, sub_eq_zero, eq_comm, EReal.coe_eq_coe_iff]

theorem sub_nonneg_iff (b : EReal) (v : ℝ) : 0 ≤ b - v ↔ (v : EReal) ≤ b :=
  EReal.sub_nonneg (.inr (EReal.coe_ne_top v)) (.inr (EReal.coe_ne_bot v))

theorem forall_slacks_iff {Q : EReal → Prop} {R : EReal → EReal → Prop}
    (h : ∀ (b : EReal) (v : ℝ), Q (b - v) ↔ R v b) {vs : List ℝ} {bs : List Float}
    (hlength : vs.length = bs.length) : (∀ s ∈ slacks vs bs, Q s) ↔ Each R vs bs := by
  rw [Each, List.forall₂_iff_zip, slacks, ← List.map_uncurry_zip_eq_zipWith, List.forall_mem_map]
  constructor
  · intro hall
    exact ⟨hlength, fun hmem => (h _ _).1 (hall _ hmem)⟩
  · rintro ⟨-, hall⟩ r hr
    exact (h _ _).2 (hall hr)

theorem length_slacks {vs : List ℝ} {bs : List Float} (h : vs.length = bs.length) :
    (slacks vs bs).length = bs.length := by
  rw [slacks, List.length_zipWith, h, Nat.min_self]

theorem slacks_append {vs ws : List ℝ} {bs cs : List Float} (h : vs.length = bs.length) :
    slacks (vs ++ ws) (bs ++ cs) = slacks vs bs ++ slacks ws cs := List.zipWith_append h

theorem length_product_boundedRows (x : List ℝ) :
    (p.boundedRows.mat.product x).length = p.boundedRows.rhs.length :=
  (Matrix.length_product _ _).trans p.even_boundedRows

theorem feasible_conic_iff_slacks (x : List ℝ) :
    (Conic.dataOf p).Feasible x ↔
      (∀ s ∈ slacks (p.problem.eqMat.product x) p.problem.eqVec, s = 0) ∧
        ∀ s ∈ slacks (p.boundedRows.mat.product x) p.boundedRows.rhs, 0 ≤ s := by
  rw [forall_slacks_iff sub_eq_zero_iff (p.length_product_eqMat x),
    forall_slacks_iff sub_nonneg_iff (p.length_product_boundedRows x)]
  exact ⟨fun h => ⟨h.equalities, h.inequalities⟩, fun h => ⟨h.1, h.2⟩⟩

theorem containAll_conesOf (s t : List EReal) :
    Cone.ContainAll (conesOf s.length t.length) (s ++ t) ↔
      (∀ v ∈ s, v = 0) ∧ ∀ v ∈ t, 0 ≤ v := by
  unfold conesOf
  rcases s with _ | ⟨v, s⟩ <;> rcases t with _ | ⟨w, t⟩ <;>
    simp [Cone.ContainAll, Cone.Contains, Cone.size]

/-- The cones ask of the slack what the conic form asks of the rows. Where no row is left the
placeholder asks for nothing. -/
theorem feasible_coneForm_iff (x : List ℝ) :
    p.coneForm.Feasible x ↔ (Conic.dataOf p).Feasible x := by
  have heq := length_slacks (p.length_product_eqMat x)
  have hbounded := length_slacks (p.length_product_boundedRows x)
  rw [feasible_conic_iff_slacks, ← containAll_conesOf, heq, hbounded, p.eqVec_length]
  by_cases h : conesOf p.dims.eq p.boundedRows.rhs.length = []
  · obtain ⟨heq0, hbounded0⟩ := (conesOf_eq_nil_iff _ _).1 h
    rw [p.eqVec_length, heq0] at heq
    rw [hbounded0] at hbounded
    rw [ConeForm.Feasible, p.coneForm_of_nil h, h, List.eq_nil_of_length_eq_zero heq,
      List.eq_nil_of_length_eq_zero hbounded]
    dsimp only
    rw [Matrix.product_zeros]
    simp [Cone.ContainAll, Cone.Contains, Cone.size, slacks, bound_one]
  · rw [ConeForm.Feasible, p.coneForm_of_ne_nil h]
    simp only [Matrix.product_vstack_cons, Matrix.product_vstack_nil, List.append_nil]
    rw [← slacks_append (p.length_product_eqMat x)]
    rfl

/-! ## What is left out -/

theorem isNaN_of_mem_rhs_oneSided
    (hnumbers : ∀ b ∈ p.problem.ineqVec ++ p.problem.xMin ++ p.problem.xMax, b.isNaN = false) :
    ∀ b ∈ p.oneSided.rhs, b.isNaN = false := by
  simp only [oneSided, List.mem_append, List.mem_map] at hnumbers ⊢
  rintro _ ((hb | hb) | ⟨b, hb, rfl⟩)
  · exact hnumbers _ (.inl (.inl hb))
  · exact hnumbers _ (.inr hb)
  · rw [Binary64.isNaN_neg]
    exact hnumbers _ (.inl (.inr hb))

theorem feasibleBounded_of_feasible (h : p.Feasible x) : p.FeasibleBounded x where
  equalities := h.equalities
  inequalities := h.inequalities.imp fun _ _ hle _ => hle
  lower := h.lower.imp fun _ _ hge _ => hge
  upper := h.upper.imp fun _ _ hle _ => hle

theorem feasible_of_feasibleBounded (hx : x.length = p.dims.var)
    (hnumbers : ∀ b ∈ p.oneSided.rhs, b.isNaN = false)
    (hdropped : ∀ b ∈ p.oneSided.rhs, OneSided.binds b = false → bound b = ⊤)
    (h : p.FeasibleBounded x) : p.Feasible x := by
  rw [p.feasibleBounded_iff_oneSided hx, each_iff_pairs p.even_oneSided] at h
  rw [p.feasible_iff_oneSided hx, each_iff_pairs p.even_oneSided]
  refine ⟨h.1, fun r hr => ?_⟩
  have hmem : r.2 ∈ p.oneSided.rhs := (List.of_mem_zip hr).2
  cases hbinds : OneSided.binds r.2 with
  | true => exact h.2 r hr ((binds_iff (hnumbers _ hmem)).1 hbinds)
  | false =>
    rw [hdropped _ hmem hbinds]
    exact le_top

/-- The cone form and the conic form describe the feasible set of the problem without the rows that
count as unbounded. It is the whole feasible set if no finite bound is among these. -/
theorem feasible_bounded_forms (p : CheckedProblem) (x : List ℝ) (hx : x.length = p.dims.var)
    (hnumbers : ∀ b ∈ p.problem.ineqVec ++ p.problem.xMin ++ p.problem.xMax, b.isNaN = false) :
    (p.coneForm.cones ≠ [] ∧ (p.coneForm.cones.map Cone.size).sum = p.coneForm.mat.nrows ∧
      p.coneForm.rhs.length = p.coneForm.mat.nrows) ∧
    (p.coneForm.Feasible x ↔ (Conic.dataOf p).Feasible x) ∧
    ((Conic.dataOf p).Feasible x ↔ p.FeasibleBounded x) ∧
    (p.Feasible x → p.coneForm.Feasible x ∧ (Conic.dataOf p).Feasible x) ∧
    ((∀ b ∈ p.oneSided.rhs, OneSided.binds b = false → bound b = ⊤) →
      (p.coneForm.Feasible x ↔ p.Feasible x) ∧ ((Conic.dataOf p).Feasible x ↔ p.Feasible x)) := by
  have hrhs := p.isNaN_of_mem_rhs_oneSided hnumbers
  have hcone := p.feasible_coneForm_iff x
  have hconic := p.feasible_conic_iff hx hrhs
  refine ⟨⟨p.cones_coneForm_ne_nil, p.sum_size_cones_coneForm, p.length_rhs_coneForm⟩, hcone, hconic,
    ?_, ?_⟩
  · intro h
    have hbounded := hconic.2 (p.feasibleBounded_of_feasible h)
    exact ⟨hcone.2 hbounded, hbounded⟩
  · intro hdropped
    have hequal : p.FeasibleBounded x ↔ p.Feasible x :=
      ⟨p.feasible_of_feasibleBounded hx hrhs hdropped, p.feasibleBounded_of_feasible⟩
    exact ⟨hcone.trans (hconic.trans hequal), hconic.trans hequal⟩

theorem feasible_bounded_forms_oneEquality :
    oneEquality.coneForm.cones = [.zero 1, .nonnegative 2] ∧
      oneEquality.coneForm.Feasible [1 / 4, 3 / 4] ∧
      (Conic.dataOf oneEquality).Feasible [1 / 4, 3 / 4] := by
  have hforms := feasible_bounded_forms oneEquality [1 / 4, 3 / 4] rfl (by decide +kernel)
  exact ⟨by decide +kernel, hforms.2.2.2.1 feasible_oneEquality⟩

end CheckedProblem

end QuadOpt
