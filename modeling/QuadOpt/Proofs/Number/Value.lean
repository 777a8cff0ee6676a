import QuadOpt.Proofs.Number.Unpacked

/-!
# Doubles as numbers

Each double but one is an extended real number. Turning the sign of a double negates the number, and
doubles compare as the numbers do.
-/

namespace QuadOpt.Binary64

open Float.Model (UnpackedFloat)
open Float.Model.UnpackedFloat (Sign)

/-! ## Values -/

/-- The real number that a finite double is, and zero for the others. -/
noncomputable def toReal : Binary64 → ℝ
  | finite negative m q => (if negative then -1 else 1) * (m * 2 ^ q)
  | _ => 0

/-- The extended real number that a double is. What is no number reads as zero. -/
noncomputable def value : Binary64 → EReal
  | infinite negative => if negative then ⊥ else ⊤
  | b => b.toReal

theorem toReal_neg (b : Binary64) : b.neg.toReal = -b.toReal := by
  rcases b with _ | s | ⟨s, m, q⟩
  · exact neg_zero.symm
  · exact neg_zero.symm
  · cases s <;> simp [neg, toReal]

theorem value_neg (b : Binary64) : b.neg.value = -b.value := by
  rcases b with _ | s | ⟨s, m, q⟩
  · simp [neg, value, toReal]
  · cases s <;> simp [neg, value]
  · exact congrArg Real.toEReal (toReal_neg (finite s m q))

section

variable {s : Sign} {m : Nat} {e : Int} (hm : 0 < m)

@[simp] theorem value_infinity_positive : (ofUnpacked (.infinity .positive)).value = ⊤ := rfl

@[simp] theorem value_infinity_negative : (ofUnpacked (.infinity .negative)).value = ⊥ := rfl

@[simp] theorem value_zero : (ofUnpacked (.zero s)).value = 0 := by
  simp [ofUnpacked, value, toReal]

theorem value_positive :
    (ofUnpacked (.finite .positive m e hm)).value = ((m * 2 ^ e : ℝ) : EReal) := by
  show (((1 : ℝ) * (m * 2 ^ e) : ℝ) : EReal) = _
  rw [one_mul]

theorem value_negative :
    (ofUnpacked (.finite .negative m e hm)).value = ((-(m * 2 ^ e) : ℝ) : EReal) := by
  show (((-1 : ℝ) * (m * 2 ^ e) : ℝ) : EReal) = _
  rw [neg_one_mul]

theorem value_positive_pos : 0 < (ofUnpacked (.finite .positive m e hm)).value := by
  rw [value_positive, EReal.coe_pos]
  positivity

theorem value_negative_neg : (ofUnpacked (.finite .negative m e hm)).value < 0 := by
  rw [value_negative, EReal.coe_neg', neg_lt_zero]
  positivity

end

theorem exists_value_eq {u : UnpackedFloat} (h : ∀ s, u ≠ .infinity s) :
    ∃ r : ℝ, (ofUnpacked u).value = r := by
  rcases u with s | _ | s | ⟨s, m, e, hm⟩
  · exact absurd rfl (h s)
  all_goals exact ⟨_, rfl⟩

/-! ## Order -/

/-- The larger exponent wins, since the smaller number has too few bits to make up for it. -/
theorem mul_two_pow_lt {m n : Nat} {q r : Int} (hm : m < 2 ^ 53) (hn : 2 ^ 52 ≤ n) (h : q < r) :
    (m * 2 ^ q : ℝ) < n * 2 ^ r := by
  have hm' : (m : ℝ) < 2 ^ 53 := by exact_mod_cast hm
  have hn' : (2 ^ 52 : ℝ) ≤ n := by exact_mod_cast hn
  calc
    (m * 2 ^ q : ℝ) < 2 ^ 53 * 2 ^ q := by gcongr
    _ = 2 ^ 52 * 2 ^ (q + 1) := by
      rw [zpow_add₀ two_ne_zero]
      ring
    _ ≤ n * 2 ^ r := by
      gcongr
      · norm_num
      · omega

theorem compare_then_compare {s t : Bool} {m n : Nat} {q r : Int}
    (hm : (finite s m q).Canonical) (hn : (finite t n r).Canonical) :
    (compare q r).then (compare m n) = cmp (m * 2 ^ q : ℝ) (n * 2 ^ r) := by
  obtain ⟨hm53, hqleast, -, hmnormal⟩ := hm
  obtain ⟨hn53, hrleast, -, hnnormal⟩ := hn
  rcases lt_trichotomy q r with h | rfl | h
  · rw [compare_lt_iff_lt.2 h, (cmp_eq_lt_iff _ _).2 (mul_two_pow_lt hm53 (hnnormal (by omega)) h)]
    rfl
  · rw [compare_eq_iff_eq.2 rfl, cmp_mul_pos_right (by positivity : (0 : ℝ) < 2 ^ q),
      ← cmp_eq_compare]
    exact (Nat.strictMono_cast.cmp_map_eq m n).symm
  · rw [compare_gt_iff_gt.2 h, (cmp_eq_gt_iff _ _).2 (mul_two_pow_lt hn53 (hmnormal (by omega)) h)]
    rfl

theorem compare_eq_lt_iff {u v : UnpackedFloat} (hu : (ofUnpacked u).Canonical)
    (hv : (ofUnpacked v).Canonical) (hun : u ≠ .notANumber) (hvn : v ≠ .notANumber) :
    UnpackedFloat.compare u v = some .lt ↔ (ofUnpacked u).value < (ofUnpacked v).value := by
  fun_cases UnpackedFloat.compare u v
  case case1 => exact absurd rfl hun
  case case2 => exact absurd rfl hvn
  -- An infinity on either side.
  case case3 s t => cases s <;> cases t <;> simp [compare]
  case case4 => simp
  case case5 hv' =>
    obtain ⟨r, hr⟩ := exists_value_eq hv'
    simp [hr]
  case case6 hu' =>
    obtain ⟨r, hr⟩ := exists_value_eq hu'
    simp [hr]
  case case7 => simp
  -- A zero on either side.
  case case8 m e hm s => simpa using (value_positive_pos hm).le
  case case9 m e hm s => simpa using value_negative_neg hm
  case case10 s m e hm => simpa using value_positive_pos hm
  case case11 s m e hm => simpa using (value_negative_neg hm).le
  case case12 => simp
  -- Two numbers other than zero.
  case case13 m e hm n f hn =>
    rw [value_negative, value_negative, EReal.coe_lt_coe_iff, neg_lt_neg_iff,
      compare_then_compare hu hv, Option.some.injEq, cmp_swap, cmp_eq_lt_iff]
  case case14 m e hm n f hn => simpa using (value_negative_neg hm).trans (value_positive_pos hn)
  case case15 m e hm n f hn =>
    simpa using ((value_negative_neg hn).trans (value_positive_pos hm)).le
  case case16 m e hm n f hn =>
    rw [value_positive, value_positive, EReal.coe_lt_coe_iff, compare_then_compare hu hv,
      Option.some.injEq, cmp_eq_lt_iff]

theorem isNaN_iff (x : Float) : x.isNaN = true ↔ x.toModel.unpack = .notANumber := by
  show x.toModel.unpack.isNaN = true ↔ _
  cases x.toModel.unpack <;> simp [UnpackedFloat.isNaN]

theorem ofFloat_eq_nan_iff (x : Float) : ofFloat x = nan ↔ x.isNaN = true := by
  rw [ofFloat_eq, isNaN_iff]
  cases x.toModel.unpack <;> simp [ofUnpacked]

theorem isNaN_neg (x : Float) : (-x).isNaN = x.isNaN := by
  rw [Bool.eq_iff_iff, ← ofFloat_eq_nan_iff, ← ofFloat_eq_nan_iff, ofFloat_neg]
  cases ofFloat x <;> simp [neg]

theorem lt_iff {x y : Float} (hx : x.isNaN = false) (hy : y.isNaN = false) :
    x < y ↔ (ofFloat x).value < (ofFloat y).value := by
  have hxn : x.toModel.unpack ≠ .notANumber := by
    rw [Ne, ← isNaN_iff, hx]
    exact Bool.false_ne_true
  have hyn : y.toModel.unpack ≠ .notANumber := by
    rw [Ne, ← isNaN_iff, hy]
    exact Bool.false_ne_true
  have hcx := canonical_ofFloat x
  have hcy := canonical_ofFloat y
  rw [ofFloat_eq] at hcx hcy
  rw [ofFloat_eq, ofFloat_eq, ← compare_eq_lt_iff hcx hcy hxn hyn]
  show Float.lt x y = true ↔ _
  simp [Float.lt, LT.lt, Float.Model.lt, UnpackedFloat.lt]

end QuadOpt.Binary64
