import QuadOpt.Proofs.Matrix.Flat
import QuadOpt.Proofs.Matrix.Quadratic

/-!
# Substitution in exact arithmetic

A lower triangular matrix is stored by its rows. Where division is exact, forward substitution solves
the system it stands for as soon as no diagonal entry is zero. The solutions for the columns of the
identity make up the inverse. Backward substitution is forward substitution on the reversed matrix.
-/

namespace QuadOpt

/-- Division undoes multiplication. A commutative ring with it is a field, and every field has it. -/
class ExactDivision (α : Type) [Zero α] [Mul α] [Div α] : Prop where
  div_mul_cancel : ∀ a b : α, b ≠ 0 → a / b * b = a

instance {α : Type} [GroupWithZero α] : ExactDivision α := ⟨fun a _ => div_mul_cancel₀ a⟩

namespace Triangular

open Finset (range)

variable {α : Type} [CommRing α]

/-! ## Entries -/

/-- The entry in row `i` and column `j`: zero to the right of the diagonal. -/
def entry (l : Lower α) (i j : ℕ) : α :=
  (l[i]?.map fun row => (row.left ++ [row.diagonal]).getD j 0).getD 0

/-- As many entries to the left of the diagonal as rows above, and no zero on the diagonal. -/
structure Regular (l : Lower α) : Prop where
  left : ∀ i (hi : i < l.length), l[i].left.length = i
  diagonal : ∀ i (hi : i < l.length), l[i].diagonal ≠ 0

theorem regular_nil : Regular ([] : Lower α) :=
  ⟨fun _ hi => absurd hi (Nat.not_lt_zero _), fun _ hi => absurd hi (Nat.not_lt_zero _)⟩

variable {l : Lower α} {row : Row α} {i j : ℕ}

theorem Regular.of_append {rows : Lower α} (h : Regular (l ++ rows)) : Regular l := by
  constructor
  · intro i hi
    have hleft := h.left i (by simp; omega)
    rwa [List.getElem_append_left hi] at hleft
  · intro i hi
    have hdiagonal := h.diagonal i (by simp; omega)
    rwa [List.getElem_append_left hi] at hdiagonal

theorem regular_concat_iff :
    Regular (l ++ [row]) ↔ Regular l ∧ row.left.length = l.length ∧ row.diagonal ≠ 0 := by
  constructor
  · intro h
    have hleft := h.left l.length (by simp)
    have hdiagonal := h.diagonal l.length (by simp)
    rw [List.getElem_concat_length rfl] at hleft hdiagonal
    exact ⟨h.of_append, hleft, hdiagonal⟩
  · rintro ⟨h, hleft, hdiagonal⟩
    constructor
    · intro i hi
      rw [List.getElem_append]
      split
      · next hin => exact h.left i hin
      · simp at hi ⊢
        omega
    · intro i hi
      rw [List.getElem_append]
      split
      · next hin => exact h.diagonal i hin
      · simpa using hdiagonal

theorem entry_append_of_lt (hi : i < l.length) (rows : Lower α) (j : ℕ) :
    entry (l ++ rows) i j = entry l i j := by
  unfold entry
  rw [List.getElem?_append_left hi]

theorem entry_concat_length (l : Lower α) (row : Row α) (j : ℕ) :
    entry (l ++ [row]) l.length j = (row.left ++ [row.diagonal]).getD j 0 := by
  simp [entry]

theorem entry_self (h : Regular l) (hi : i < l.length) : entry l i i = l[i].diagonal := by
  have hleft := h.left i hi
  simp [entry, hi, hleft]

theorem entry_of_lt (h : Regular l) (hi : i < l.length) (hij : i < j) : entry l i j = 0 := by
  have hleft := h.left i hi
  have hout : (l[i].left ++ [l[i].diagonal]).length ≤ j := by
    rw [List.length_append, hleft]
    exact hij
  simp only [entry, List.getElem?_eq_getElem hi, Option.map_some, Option.getD_some,
    List.getD_eq_getElem?_getD, List.getElem?_eq_none hout, Option.getD_none]

/-! ## Tables of numbers -/

variable {a : ℕ → ℕ → α} {n : ℕ}

/-- The entry as a function of any two places, with zeros outside. -/
def extend (q : Fin n → Fin n → α) (i j : ℕ) : α :=
  if h : i < n ∧ j < n then q ⟨i, h.1⟩ ⟨j, h.2⟩ else 0

theorem extend_val (q : Fin n → Fin n → α) (i j : Fin n) : extend q i j = q i j := dif_pos ⟨i.2, j.2⟩

/-- Row `i` of the lower triangle of `a`. -/
def rowAt (a : ℕ → ℕ → α) (i : ℕ) : Row α := ⟨(List.range i).map (a i), a i i⟩

theorem lowerPart_ofFn (q : Fin n → Fin n → α) :
    lowerPart (.ofFn n n q) = (List.range n).map (rowAt (extend q)) := by
  have hentry (i j : Fin n) (hi : i < (Matrix.ofFn n n q).nrows) :
      (Matrix.ofFn n n q).entry ⟨i, hi⟩ j = extend q i j := by
    rw [extend_val]
    exact Matrix.entry_ofFn q i.2 j.2 hi j.2
  rw [lowerPart_eq (by simp)]
  apply List.ext_getElem
  · simp
  intro i hi _
  have hi' : i < n := by simpa using hi
  rw [List.getElem_map, List.getElem_finRange, List.getElem_map, List.getElem_range]
  unfold rowOf rowAt
  congr 1
  · apply List.ext_getElem
    · simp
    · intro j hj _
      have hj' : j < i := by simpa using hj
      rw [List.getElem_ofFn, List.getElem_map, List.getElem_range]
      exact hentry ⟨i, hi'⟩ ⟨j, by omega⟩ (by simpa using hi')
  · exact hentry ⟨i, hi'⟩ ⟨i, hi'⟩ (by simpa using hi')

theorem regular_map_rowAt (hdiagonal : ∀ i, i < n → a i i ≠ 0) :
    Regular ((List.range n).map (rowAt a)) := by
  constructor
  · intro i hi
    simp [rowAt]
  · intro i hi
    rw [List.length_map, List.length_range] at hi
    simpa [rowAt] using hdiagonal i hi

theorem entry_map_rowAt {i j : ℕ} (hi : i < n) :
    entry ((List.range n).map (rowAt a)) i j = if j ≤ i then a i j else 0 := by
  have hrow : (rowAt a i).left ++ [(rowAt a i).diagonal] = (List.range (i + 1)).map (a i) := by
    simp [rowAt, List.range_succ]
  simp only [entry, List.getElem?_map, List.getElem?_range hi, Option.map_some, Option.getD_some,
    hrow, List.getD_eq_getElem?_getD]
  split
  · next hj => rw [List.getElem?_range (by omega), Option.map_some, Option.getD_some]
  · next hj => rw [List.getElem?_eq_none (by simp; omega), Option.map_none, Option.getD_none]

theorem toMatrix_eq (l : Lower α) :
    l.toMatrix = .ofFn l.length l.length fun i j => entry l i j := by
  unfold Lower.toMatrix Matrix.ofLists Matrix.ofFn
  congr 1
  apply List.ext_getElem
  · simp
  · intro i hi _
    rw [List.length_map, List.length_map] at hi
    simp [entry]

omit [CommRing α] in
theorem reversed_ofFn (u : Fin n → Fin n → α) :
    reversed (.ofFn n n u) = .ofFn n n fun i j => u i.rev j.rev := by
  unfold reversed Matrix.ofFn
  congr 1
  apply List.ext_getElem
  · simp
  · intro i hi _
    apply Vector.ext
    intro j hj
    simp [Fin.rev, Nat.sub_sub, Nat.add_comm 1]

theorem ofLists_map_finRange (n k : ℕ) (f : Fin k → List α) :
    Matrix.ofLists n ((List.finRange k).map f) = .ofFn k n fun c i => (f c).getD i 0 := by
  unfold Matrix.ofLists Matrix.ofFn
  rw [List.map_map, List.ofFn_eq_map]
  rfl

theorem getD_reverse {xs : List α} (h : xs.length = n) (i : Fin n) :
    xs.reverse.getD i 0 = xs.getD i.rev 0 := by
  have hplace : xs.length - 1 - i = i.rev := by
    rw [Fin.val_rev]
    omega
  rw [List.getD_eq_getElem?_getD, List.getElem?_reverse (by omega), hplace,
    ← List.getD_eq_getElem?_getD]

/-! ## Forward substitution -/

theorem residual_eq {cs vs : List α} (h : cs.length = vs.length) (b : α) :
    residual b cs vs = b - ∑ j ∈ range vs.length, cs.getD j 0 * vs.getD j 0 := by
  unfold residual
  induction cs generalizing vs b with
  | nil =>
    have hvs : vs = [] := List.eq_nil_of_length_eq_zero h.symm
    simp [hvs]
  | cons c cs ih =>
    cases vs with
    | nil => simp at h
    | cons v vs =>
      rw [List.zip_cons_cons, List.foldl_cons, ih (Nat.succ.inj h), List.length_cons,
        Finset.sum_range_succ']
      simp only [List.getD_cons_succ, List.getD_cons_zero]
      ring

/-- `y` solves the system with right-hand sides `b`. -/
def Solves (l : Lower α) (b y : List α) : Prop :=
  y.length = l.length ∧
    ∀ i, i < l.length → ∑ j ∈ range l.length, entry l i j * y.getD j 0 = b.getD i 0

theorem getD_append_of_lt {xs : List α} (hi : i < xs.length) (ys : List α) :
    (xs ++ ys).getD i 0 = xs.getD i 0 := by
  rw [List.getD_eq_getElem?_getD, List.getElem?_append_left hi, List.getD_eq_getElem?_getD]

variable [Div α] [ExactDivision α]

/-- One more row gives one more unknown and leaves the others. -/
theorem Solves.concat {b y : List α} {c : α} (h : Solves l b y) (hb : b.length = l.length)
    (hregular : Regular (l ++ [row])) :
    Solves (l ++ [row]) (b ++ [c]) (y ++ [residual c row.left y / row.diagonal]) := by
  obtain ⟨hl, hleft, hdiagonal⟩ := regular_concat_iff.1 hregular
  obtain ⟨hy, hsum⟩ := h
  refine ⟨by simp [hy], fun i hi => ?_⟩
  rw [List.length_append, List.length_singleton] at hi ⊢
  rw [Finset.sum_range_succ]
  rcases Nat.lt_succ_iff_lt_or_eq.1 hi with hlt | rfl
  · have hzero : entry (l ++ [row]) i l.length = 0 := by
      rw [entry_append_of_lt hlt, entry_of_lt hl hlt hlt]
    rw [hzero, zero_mul, add_zero, getD_append_of_lt (by omega), ← hsum i hlt]
    refine Finset.sum_congr rfl fun j hj => ?_
    rw [Finset.mem_range] at hj
    rw [entry_append_of_lt hlt, getD_append_of_lt (by omega)]
  · have hterms : ∑ j ∈ range l.length, entry (l ++ [row]) l.length j *
          (y ++ [residual c row.left y / row.diagonal]).getD j 0 =
        ∑ j ∈ range y.length, row.left.getD j 0 * y.getD j 0 := by
      rw [hy]
      refine Finset.sum_congr rfl fun j hj => ?_
      rw [Finset.mem_range] at hj
      rw [entry_concat_length, getD_append_of_lt (by omega), getD_append_of_lt (by omega)]
    have hlast : entry (l ++ [row]) l.length l.length = row.diagonal := by
      simp [entry_concat_length, hleft]
    have hvalue : (y ++ [residual c row.left y / row.diagonal]).getD l.length 0 =
        residual c row.left y / row.diagonal := by
      simp [← hy]
    have hright : (b ++ [c]).getD l.length 0 = c := by simp [← hb]
    rw [hterms, hlast, hvalue, hright, mul_comm row.diagonal,
      ExactDivision.div_mul_cancel _ _ hdiagonal, residual_eq (hleft.trans hy.symm)]
    ring

theorem solves_forwardFrom {rows : Lower α} {b bs known : List α} (h : Solves l b known)
    (hregular : Regular (l ++ rows)) (hb : b.length = l.length) (hbs : bs.length = rows.length) :
    Solves (l ++ rows) (b ++ bs) (forwardFrom known rows bs) := by
  induction rows generalizing l b bs known with
  | nil =>
    have hnil : bs = [] := List.eq_nil_of_length_eq_zero hbs
    rw [hnil, List.append_nil, List.append_nil]
    exact h
  | cons row rows ih =>
    cases bs with
    | nil => simp at hbs
    | cons c bs =>
      rw [List.append_cons] at hregular ⊢
      rw [List.append_cons b, forwardFrom]
      exact ih (h.concat hb hregular.of_append) hregular (by simp [hb]) (Nat.succ.inj hbs)

theorem solves_forward (hregular : Regular l) {b : List α} (hb : b.length = l.length) :
    Solves l b (forward l b) := by
  have hnil : Solves ([] : Lower α) [] [] := ⟨rfl, fun i hi => absurd hi (Nat.not_lt_zero i)⟩
  exact solves_forwardFrom hnil hregular rfl hb

/-! ## The inverse -/

/-- The square table that the rows stand for. -/
def square (l : Lower α) := Matrix.of fun i j : Fin l.length => entry l i j

/-- The solution for each column of the identity. -/
def squareInverse (l : Lower α) :=
  Matrix.of fun i c : Fin l.length =>
    (forward l (List.ofFn fun r => if r = c then 1 else 0)).getD i 0

theorem square_mul_squareInverse (hregular : Regular l) : square l * squareInverse l = 1 := by
  ext i c
  let column := List.ofFn fun r => if r = c then (1 : α) else 0
  have hsolves := solves_forward (b := column) hregular (by simp [column])
  rw [Matrix.mul_apply, Matrix.one_apply]
  simp only [square, squareInverse, Matrix.of_apply]
  rw [Fin.sum_univ_eq_sum_range fun j => entry l i j * (forward l column).getD j 0,
    hsolves.2 i i.2]
  simp [column]

theorem squareInverse_mul_square (hregular : Regular l) : squareInverse l * square l = 1 :=
  mul_eq_one_comm.1 (square_mul_squareInverse hregular)

/-! ## Backward substitution -/

/-- Backward substitution solves an upper triangular system without a zero on the diagonal. -/
theorem exists_backward? [BEq α] [LawfulBEq α] {k : ℕ} (u : Fin n → Fin n → α)
    (b : Fin n → Fin k → α) (hupper : ∀ i j, j < i → u i j = 0) (hdiagonal : ∀ i, u i i ≠ 0) :
    ∃ x, backward? (.ofFn n n u) (.ofFn n k b) = some (.ofFn n k x) ∧
      Matrix.of u * Matrix.of x = Matrix.of b := by
  let a := extend fun i j : Fin n => u i.rev j.rev
  let l := (List.range n).map (rowAt a)
  have ha (i j : Fin n) : a i j = u i.rev j.rev := extend_val _ i j
  have hrows : lowerPart (reversed (.ofFn n n u)) = l := by rw [reversed_ofFn, lowerPart_ofFn]
  have hlength : l.length = n := by simp [l]
  have hpivot (i : ℕ) (hi : i < n) : a i i ≠ 0 := (ha ⟨i, hi⟩ ⟨i, hi⟩).symm ▸ hdiagonal _
  have hregular : Regular l := regular_map_rowAt hpivot
  let y (c : Fin k) := forward l (List.ofFn fun r => b r c).reverse
  have hsolves (c : Fin k) : Solves l (List.ofFn fun r => b r c).reverse (y c) :=
    solves_forward hregular (by simp [hlength])
  refine ⟨fun i c => (y c).reverse.getD i 0, ?_, ?_⟩
  · have hnonzero : l.any (·.diagonal == 0) = false := by
      rw [List.any_eq_false]
      intro row hrow
      obtain ⟨i, hi, rfl⟩ := List.mem_map.1 hrow
      simpa [rowAt] using hpivot i (List.mem_range.1 hi)
    have hcolumns := Matrix.map_column_ofFn b fun v => (forward l v.reverse).reverse
    simp only [backward?, hrows, hnonzero, Bool.false_eq_true, if_false]
    rw [hcolumns, Matrix.nrows_ofFn, ofLists_map_finRange, Matrix.transpose_ofFn]
  · ext i c
    have hrow : ∀ j : Fin n, entry l i.rev j = u i j.rev := by
      intro j
      rw [entry_map_rowAt i.rev.2]
      split
      · rw [ha, Fin.rev_rev]
      · next hj => exact (hupper i j.rev (by simp [Fin.lt_def] at hj ⊢; omega)).symm
    have hvalue (j : Fin n) : (y c).reverse.getD j.rev 0 = (y c).getD j 0 := by
      rw [getD_reverse ((hsolves c).1.trans hlength), Fin.rev_rev]
    have hsum := (hsolves c).2 i.rev (i.rev.2.trans_eq hlength.symm)
    rw [hlength, Finset.sum_range] at hsum
    have hright : (List.ofFn fun r => b r c).reverse.getD i.rev 0 = b i c := by
      rw [getD_reverse (by simp), Fin.rev_rev]
      simp
    calc
      (Matrix.of u * Matrix.of fun (t : Fin n) c => (y c).reverse.getD t 0) i c
          = ∑ t, u i t * (y c).reverse.getD t 0 := Matrix.mul_apply
      _ = ∑ j : Fin n, u i j.rev * (y c).reverse.getD j.rev 0 :=
          (Equiv.sum_comp Fin.revPerm _).symm
      _ = ∑ j : Fin n, entry l i.rev j * (y c).getD j 0 := by simp only [hvalue, hrow]
      _ = b i c := hsum.trans hright

end Triangular

end QuadOpt
