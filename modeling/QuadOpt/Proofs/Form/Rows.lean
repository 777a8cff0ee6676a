import QuadOpt.Form.Flat
import QuadOpt.Method.Native
import QuadOpt.Proofs.Number.Value

/-!
# Rows at a point

The product of a matrix and a point in exact arithmetic, and what stacking, turning signs and storing
row by row do to it.
-/

namespace QuadOpt

/-! ## Entries -/

/-- An entry of a matrix, as a real number. -/
noncomputable def coefficient (v : Float) : ℝ := (Binary64.ofFloat v).toReal

/-- A right-hand side or a bound, as an extended real number. -/
noncomputable def bound (v : Float) : EReal := (Binary64.ofFloat v).value

theorem coefficient_neg (v : Float) : coefficient (-v) = -coefficient v := by
  rw [coefficient, Binary64.ofFloat_neg, Binary64.toReal_neg]
  rfl

theorem bound_neg (v : Float) : bound (-v) = -bound v := by
  rw [bound, Binary64.ofFloat_neg, Binary64.value_neg]
  rfl

theorem coefficient_zero : coefficient 0 = 0 := by
  rw [coefficient, show Binary64.ofFloat 0 = .finite false 0 (-1074) by decide +kernel]
  simp [Binary64.toReal]

theorem coefficient_one : coefficient 1 = 1 := by
  rw [coefficient, show Binary64.ofFloat 1 = .finite false (2 ^ 52) (-52) by decide +kernel]
  norm_num [Binary64.toReal]

theorem bound_zero : bound 0 = 0 := by
  rw [bound, show Binary64.ofFloat 0 = .finite false 0 (-1074) by decide +kernel]
  simp [Binary64.value, Binary64.toReal]

theorem bound_one : bound 1 = 1 := by
  rw [bound, show Binary64.ofFloat 1 = .finite false (2 ^ 52) (-52) by decide +kernel]
  norm_num [Binary64.value, Binary64.toReal]

/-! ## Products -/

noncomputable def dot (row : List Float) (x : List ℝ) : ℝ :=
  (List.zipWith (fun a v => coefficient a * v) row x).sum

theorem dot_map_neg (row : List Float) (x : List ℝ) : dot (row.map (-·)) x = -dot row x := by
  unfold dot
  induction row generalizing x with
  | nil => simp
  | cons a row ih =>
    cases x with
    | nil => simp
    | cons v x =>
      rw [List.map_cons, List.zipWith_cons_cons, List.sum_cons, ih, coefficient_neg,
        List.zipWith_cons_cons, List.sum_cons]
      ring

theorem dot_replicate_zero (n : Nat) (x : List ℝ) : dot (List.replicate n 0) x = 0 := by
  unfold dot
  induction n generalizing x with
  | zero => simp
  | succ n ih =>
    cases x with
    | nil => simp
    | cons v x =>
      rw [List.replicate_succ, List.zipWith_cons_cons, List.sum_cons, ih, coefficient_zero]
      ring

theorem dot_unit (x : List ℝ) (i : Fin x.length) :
    dot (List.ofFn fun c : Fin x.length => if i = c then 1 else 0) x = x[i] := by
  have hterms : List.zipWith (fun a v => coefficient a * v)
      (List.ofFn fun c : Fin x.length => if i = c then 1 else 0) x =
        List.ofFn fun c : Fin x.length => if i = c then x[c] else 0 := by
    refine List.ext_getElem (by simp) fun c _ _ => ?_
    simp only [List.getElem_zipWith, List.getElem_ofFn]
    split
    · simp [coefficient_one]
    · simp [coefficient_zero]
  rw [dot, hterms, List.sum_ofFn]
  simp

namespace Matrix

noncomputable def product (m : Matrix Float) (x : List ℝ) : List ℝ := m.toLists.map (dot · x)

@[simp] theorem length_product (m : Matrix Float) (x : List ℝ) : (m.product x).length = m.nrows := by
  simp [product]

@[simp] theorem product_vstack_nil {n : Nat} (x : List ℝ) :
    (vstack ([] : List (Block Float n))).product x = [] := rfl

@[simp] theorem product_vstack_cons {n : Nat} (b : Block Float n) (blocks : List (Block Float n))
    (x : List ℝ) : (vstack (b :: blocks)).product x = b.1.product x ++ (vstack blocks).product x := by
  simp [product]

theorem product_identity (x : List ℝ) : (identity x.length).product x = x := by
  refine List.ext_getElem (by simp [identity]) fun i _ hi => ?_
  refine Eq.trans ?_ (dot_unit x ⟨i, hi⟩)
  simp [product, identity, ofFn, toLists, Vector.toList_ofFn]

theorem product_zeros (r n : Nat) (x : List ℝ) :
    (zeros r n).product x = List.replicate r 0 := by
  have hrow : ((Vector.ofFn fun _ : Fin n => (0 : Float)).toList) = List.replicate n 0 := by
    rw [Vector.toList_ofFn, List.ofFn_const]
  simp [product, zeros, ofFn, toLists, hrow, dot_replicate_zero]

theorem product_map_neg (m : Matrix Float) (x : List ℝ) :
    (m.map (-·)).product x = (m.product x).map (-·) := by
  simp [product, map, toLists, Vector.toList_map, dot_map_neg]

end Matrix

/-! ## Rows stored one after the other -/

theorem chunks_flatMap {α : Type} {n : Nat} (rows : List (Vector α n)) :
    chunks n rows.length (rows.flatMap (·.toList)) = rows.map (·.toList) := by
  induction rows with
  | nil => rfl
  | cons row rows ih =>
    rw [List.length_cons, List.flatMap_cons, chunks, List.take_left' row.length_toList,
      List.drop_left' row.length_toList, ih, List.map_cons]

theorem Matrix.chunks_rowMajor {α : Type} (m : Matrix α) :
    chunks m.ncols m.nrows m.rowMajor = m.toLists := chunks_flatMap m.rows

end QuadOpt
