import QuadOpt.Form.Ranges
import QuadOpt.Proofs.Number.Value

/-!
# Comparing doubles

Equality of doubles is symmetric and transitive. It is reflexive but for the value that is no number,
and does not see the sign of a zero. Numbers are in one order or the other, and what is no number is
in neither. Nothing is below itself or below negative infinity.
-/

namespace QuadOpt.Binary64

open Float.Model (UnpackedFloat)
open Float.Model.UnpackedFloat (Sign)

/-! ## Equality -/

/-- What a double counts as when it is compared: zeros have no sign, and what is no number counts as
nothing. -/
def compared? : UnpackedFloat → Option UnpackedFloat
  | .notANumber => none
  | .zero _ => some (.zero .positive)
  | u => some u

theorem compare_eq_eq_iff (u v : UnpackedFloat) :
    UnpackedFloat.compare u v = some .eq ↔ ∃ w, compared? u = some w ∧ compared? v = some w := by
  -- One case for each pair of shapes that the comparison tells apart.
  fun_cases UnpackedFloat.compare u v
  case case1 => simp [compared?]
  case case2 => simp [compared?]
  case case3 s t => cases s <;> cases t <;> simp [compared?, compare]
  case case4 hv | case5 hv =>
    cases v with
    | infinity s => exact absurd rfl (hv s)
    | _ => simp [compared?]
  case case6 hu | case7 hu =>
    cases u with
    | infinity s => exact absurd rfl (hu s)
    | _ => simp [compared?]
  case case12 => simp [compared?]
  case case13 | case16 =>
    simp only [compared?, Option.some.injEq, exists_eq_left', Ordering.swap_eq_eq,
      Ordering.then_eq_eq, compare_eq_iff_eq, UnpackedFloat.finite.injEq, true_and]
    exact ⟨fun ⟨he, hm⟩ => ⟨hm.symm, he.symm⟩, fun ⟨hm, he⟩ => ⟨he.symm, hm.symm⟩⟩
  all_goals simp [compared?]

theorem beq_iff (x y : Float) :
    (x == y) = true ↔
      ∃ w, compared? x.toModel.unpack = some w ∧ compared? y.toModel.unpack = some w := by
  rw [← compare_eq_eq_iff]
  show (UnpackedFloat.compare x.toModel.unpack y.toModel.unpack == some .eq) = true ↔ _
  rw [beq_iff_eq]

theorem beq_self_iff (x : Float) : (x == x) = true ↔ x.isNaN = false := by
  rw [beq_iff, ← Bool.not_eq_true, isNaN_iff]
  cases x.toModel.unpack <;> simp [compared?]

theorem beq_eq_false_of_isNaN {x : Float} (hx : x.isNaN = true) (y : Float) : (x == y) = false := by
  rw [← Bool.not_eq_true, beq_iff, (isNaN_iff x).1 hx]
  simp [compared?]

theorem beq_symm {x y : Float} (h : (x == y) = true) : (y == x) = true := by
  rw [beq_iff] at h ⊢
  obtain ⟨w, hx, hy⟩ := h
  exact ⟨w, hy, hx⟩

theorem beq_trans {x y z : Float} (hxy : (x == y) = true) (hyz : (y == z) = true) :
    (x == z) = true := by
  rw [beq_iff] at hxy hyz ⊢
  obtain ⟨w, hx, hy⟩ := hxy
  obtain ⟨v, hy', hz⟩ := hyz
  rw [hy, Option.some.injEq] at hy'
  subst hy'
  exact ⟨w, hx, hz⟩

/-- The zeros of either sign are all that equals zero. -/
theorem beq_zero_iff (x : Float) : (x == 0) = true ↔ x.isNaN = false ∧ (ofFloat x).value = 0 := by
  have hzero : (0 : Float).toModel.unpack = .zero .positive := rfl
  rw [beq_iff, hzero, ← Bool.not_eq_true, isNaN_iff, ofFloat_eq]
  rcases x.toModel.unpack with ⟨_ | _⟩ | _ | s | ⟨_ | _, m, e, hm⟩
  case finite.negative => simpa [compared?] using (value_negative_neg hm).ne
  case finite.positive => simpa [compared?] using (value_positive_pos hm).ne'
  all_goals simp [compared?]

theorem value_eq_of_beq {x y : Float} (h : (x == y) = true) :
    (ofFloat x).value = (ofFloat y).value := by
  rw [beq_iff] at h
  obtain ⟨w, hx, hy⟩ := h
  have hvalue {u : UnpackedFloat} (hu : compared? u = some w) :
      (ofUnpacked u).value = (ofUnpacked w).value := by
    cases u with
    | notANumber => cases hu
    | zero s =>
      cases hu
      rw [value_zero, value_zero]
    | _ => rw [Option.some.inj hu]
  rw [ofFloat_eq, ofFloat_eq, hvalue hx, hvalue hy]

/-! ## Order -/

theorem compare_then_compare_swap (e f : Int) (m n : Nat) :
    (compare f e).then (compare n m) = ((compare e f).then (compare m n)).swap := by
  rw [Ordering.swap_then, ← Std.OrientedCmp.eq_swap, ← Std.OrientedCmp.eq_swap]

theorem compare_swap (u v : UnpackedFloat) :
    UnpackedFloat.compare v u = (UnpackedFloat.compare u v).map Ordering.swap := by
  fun_cases UnpackedFloat.compare u v
  case case1 => cases v <;> rfl
  case case2 => cases u <;> rfl
  case case3 s t => cases s <;> cases t <;> rfl
  case case4 | case5 => cases v <;> simp_all [UnpackedFloat.compare]
  case case6 | case7 => cases u <;> simp_all [UnpackedFloat.compare]
  case case13 m e _ n f _ =>
    exact congrArg (some ·.swap) (compare_then_compare_swap e f m n)
  case case16 m e _ n f _ => exact congrArg some (compare_then_compare_swap e f m n)
  all_goals rfl

theorem exists_compare_eq {u v : UnpackedFloat} (hu : u ≠ .notANumber) (hv : v ≠ .notANumber) :
    ∃ o, UnpackedFloat.compare u v = some o := by
  fun_cases UnpackedFloat.compare u v
  case case1 => exact absurd rfl hu
  case case2 => exact absurd rfl hv
  all_goals exact ⟨_, rfl⟩

theorem lt_iff_not_le {x y : Float} (hx : x.isNaN = false) (hy : y.isNaN = false) :
    x < y ↔ ¬ y ≤ x := by
  rw [← Bool.not_eq_true, isNaN_iff] at hx hy
  obtain ⟨o, ho⟩ := exists_compare_eq hx hy
  have hlt : x < y ↔ o = .lt := by
    show Float.lt x y = true ↔ _
    simp [Float.lt, LT.lt, Float.Model.lt, UnpackedFloat.lt, ho]
  have hle : y ≤ x ↔ o.swap.isLE = true := by
    show Float.le y x = true ↔ _
    simp [Float.le, LE.le, Float.Model.le, UnpackedFloat.le, compare_swap x.toModel.unpack, ho]
  rw [hlt, hle]
  cases o <;> decide

theorem le_iff {x y : Float} (hx : x.isNaN = false) (hy : y.isNaN = false) :
    x ≤ y ↔ (ofFloat x).value ≤ (ofFloat y).value := by
  rw [← not_lt, ← lt_iff hy hx, lt_iff_not_le hy hx, not_not]

theorem not_lt_of_isNaN {x : Float} (hx : x.isNaN = true) (y : Float) : ¬ x < y := by
  rw [isNaN_iff] at hx
  show ¬ Float.lt x y = true
  simp [Float.lt, LT.lt, Float.Model.lt, UnpackedFloat.lt, hx, UnpackedFloat.compare]

theorem not_lt_of_le {x y : Float} (h : x ≤ y) : ¬ y < x := by
  cases hy : y.isNaN with
  | true => exact not_lt_of_isNaN hy x
  | false =>
    cases hx : x.isNaN with
    | true =>
      rw [isNaN_iff] at hx
      have hle : Float.le x y = true := h
      simp [Float.le, LE.le, Float.Model.le, UnpackedFloat.le, hx, UnpackedFloat.compare] at hle
    | false =>
      rw [lt_iff_not_le hy hx, not_not]
      exact h

theorem not_lt_self (x : Float) : ¬ x < x := by
  cases hx : x.isNaN with
  | true => exact not_lt_of_isNaN hx x
  | false =>
    rw [lt_iff hx hx]
    exact lt_irrefl _

theorem not_lt_negativeInfinity (x : Float) : ¬ x < negativeInfinity := by
  cases hx : x.isNaN with
  | true => exact not_lt_of_isNaN hx _
  | false =>
    rw [lt_iff hx (by decide +kernel),
      show ofFloat negativeInfinity = .infinite true by decide +kernel]
    exact not_lt_bot

end QuadOpt.Binary64
