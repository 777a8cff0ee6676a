import QuadOpt.Number.Shortest
import QuadOpt.Proofs.Number.Value

/-!
# Shortest decimals and the doubles they come from

The shortest decimal of a double lies in the interval of the reals that round to that double, since
seventeen digits leave no room to miss the interval. Intervals of two doubles have at most an end in
common, and then one of the two leaves it out. So two doubles never share their shortest decimal.
-/

namespace QuadOpt.Decimal

noncomputable def toReal (d : Decimal) : ℝ := d.digits * ((10 : ℕ) : ℝ) ^ d.exponent

theorem toReal_eq (d : Decimal) : d.toReal = d.digits * 10 ^ d.exponent := by
  rw [toReal, Nat.cast_ofNat]

theorem toReal_trimZeros (fuel : ℕ) (d : Decimal) : (trimZeros fuel d).toReal = d.toReal := by
  induction fuel generalizing d with
  | zero => rfl
  | succ fuel ih =>
    unfold trimZeros
    split
    · next h =>
      have hdigits : (d.digits : ℝ) = (d.digits / 10 : ℕ) * 10 := by
        have := Nat.div_add_mod d.digits 10
        exact_mod_cast (by omega : d.digits = d.digits / 10 * 10)
      rw [ih, toReal_eq, toReal_eq, hdigits, zpow_add_one₀ (by norm_num)]
      ring
    · rfl

/-! ## Size -/

theorem lt_pow_width (n : ℕ) : n < 10 ^ width n :=
  (Nat.length_toDigits_le_iff (by norm_num) Nat.length_toDigits_pos).1 le_rfl

theorem pow_width_le {n : ℕ} (hn : 0 < n) : 10 ^ (width n - 1) ≤ n := by
  by_contra h
  by_cases hone : width n - 1 = 0
  · rw [hone] at h
    omega
  · have hshort := (Nat.length_toDigits_le_iff (by norm_num) (Nat.pos_of_ne_zero hone)).2 (not_le.1 h)
    have hpos : 0 < width n := Nat.length_toDigits_pos
    rw [← width] at hshort
    omega

/-- The widths give the magnitude up to one, and the fraction decides. -/
theorem magnitude_eq_or (a b : ℕ) {e : ℤ} (he : (width a : ℤ) - width b = e) :
    magnitude a b = e ∨ magnitude a b = e + 1 ∧ (0 ≤ e → b * 10 ^ e.toNat ≤ a) ∧
      (e < 0 → b ≤ a * 10 ^ (-e).toNat) := by
  subst he
  simp only [magnitude]
  split
  · next hnonneg =>
    split
    · exact .inl rfl
    · next h => exact .inr ⟨rfl, fun _ => not_lt.1 h, fun hneg => absurd hnonneg (not_le.2 hneg)⟩
  · next hneg =>
    split
    · exact .inl rfl
    · next h => exact .inr ⟨rfl, fun hnonneg => absurd hnonneg hneg, fun _ => not_lt.1 h⟩

theorem zpow_magnitude_le {a b : ℕ} (ha : 0 < a) (hb : 0 < b) :
    (10 : ℝ) ^ (magnitude a b - 1) ≤ a / b := by
  have hb' : (0 : ℝ) < b := by exact_mod_cast hb
  rw [le_div_iff₀ hb']
  obtain ⟨e, he⟩ : ∃ e, (width a : ℤ) - width b = e := ⟨_, rfl⟩
  rcases magnitude_eq_or a b he with h | ⟨h, hnonneg, hneg⟩
  · have hwa : (10 : ℝ) ^ ((width a : ℤ) - 1) ≤ a := by
      have hpos : 0 < width a := Nat.length_toDigits_pos
      rw [show (width a : ℤ) - 1 = ((width a - 1 : ℕ) : ℤ) by omega, zpow_natCast]
      exact_mod_cast pow_width_le ha
    have hwb : (b : ℝ) ≤ 10 ^ (width b : ℤ) := by
      rw [zpow_natCast]
      exact_mod_cast (lt_pow_width b).le
    calc
      (10 : ℝ) ^ (magnitude a b - 1) * b ≤ 10 ^ (magnitude a b - 1) * 10 ^ (width b : ℤ) := by gcongr
      _ = 10 ^ ((width a : ℤ) - 1) := by
        rw [← zpow_add₀ (by norm_num)]
        congr 1
        omega
      _ ≤ a := hwa
  · rw [h, add_sub_cancel_right]
    rcases le_or_gt 0 e with hsign | hsign
    · rw [mul_comm, ← Int.toNat_of_nonneg hsign, zpow_natCast]
      exact_mod_cast hnonneg hsign
    · have hle : (b : ℝ) ≤ a * 10 ^ (-e).toNat := by exact_mod_cast hneg hsign
      calc
        (10 : ℝ) ^ e * b ≤ 10 ^ e * (a * 10 ^ (-e).toNat) := by gcongr
        _ = a * (10 ^ e * 10 ^ (-e)) := by
          rw [← zpow_natCast, Int.toNat_of_nonneg (by omega)]
          ring
        _ = a := by rw [← zpow_add₀ (by norm_num), add_neg_cancel, zpow_zero, mul_one]

/-! ## Intervals -/

/-- Whether `x` lies in the interval when a quarter of the last place is `unit`. -/
def Interval.Contains (i : Interval) (unit x : ℝ) : Prop :=
  i.low * unit ≤ x ∧ x ≤ i.high * unit ∧
    (i.closed = false → i.low * unit ≠ x ∧ x ≠ i.high * unit)

theorem Interval.contains_of_lt {i : Interval} {unit x : ℝ} (hlow : i.low * unit < x)
    (hhigh : x < i.high * unit) : i.Contains unit x :=
  ⟨hlow.le, hhigh.le, fun _ => ⟨hlow.ne, hhigh.ne⟩⟩

theorem Interval.holds_iff (i : Interval) {c : ℝ} (hc : 0 < c) (scale x : ℕ) :
    i.holds scale x = true ↔ i.Contains (scale * c) (x * c) := by
  have hcast (a : ℕ) : a * (scale * c) = ((a * scale : ℕ) : ℝ) * c := by
    push_cast
    ring
  simp only [Contains, hcast, mul_le_mul_iff_of_pos_right hc, ne_eq,
    mul_eq_mul_right_iff, hc.ne', or_false, Nat.cast_le, Nat.cast_inj]
  unfold holds
  cases i.closed
  · simp
    omega
  · simp

theorem interval_high (m : ℕ) (q : ℤ) : (interval m q).high = 4 * m + 2 := rfl

theorem interval_closed_iff (m : ℕ) (q : ℤ) : (interval m q).closed = true ↔ m % 2 = 0 :=
  decide_eq_true_iff

theorem le_interval_low (m : ℕ) (q : ℤ) : 4 * m - 2 ≤ (interval m q).low := by
  simp only [interval]
  split <;> omega

section

variable {m : ℕ} (hm : 0 < m) (q : ℤ)
include hm

theorem interval_low_pos : 0 < (interval m q).low := by
  simp only [interval]
  split <;> omega

theorem interval_low_lt : (interval m q).low < 4 * m := by
  simp only [interval]
  split <;> omega

/-- A seventeenth digit is worth less than the width of the interval. -/
theorem lt_interval_width (hm' : m < 2 ^ 53) :
    4 * m + (interval m q).low * 10 ^ 16 < (interval m q).high * 10 ^ 16 := by
  simp only [interval]
  split
  · next htight =>
    rw [htight.1]
    decide
  · omega

end

/-! ## The grids -/

theorem ratio_one (q : ℤ) :
    ((Binary64.ratio 1 q).1 : ℝ) / (Binary64.ratio 1 q).2 = 2 ^ q := by
  unfold Binary64.ratio
  split
  · next h =>
    obtain ⟨n, rfl⟩ := Int.eq_ofNat_of_zero_le h
    simp
  · next h =>
    obtain ⟨n, hn⟩ := Int.eq_ofNat_of_zero_le (by omega : 0 ≤ -q)
    rw [hn, show q = -(n : ℤ) by omega]
    simp

theorem ratio_one_fst_pos (q : ℤ) : 0 < (Binary64.ratio 1 q).1 := by
  unfold Binary64.ratio
  split <;> simp

/-- A quarter of the last place and a step of the grid are multiples of one real. -/
theorem exists_common {a b : ℕ} (hb : 0 < b) (e : ℤ) :
    ∃ c : ℝ, 0 < c ∧
      ((if 0 ≤ e then a else a * Nat.pow 10 (-e).toNat : ℕ) : ℝ) * c = a / b ∧
      ((if 0 ≤ e then b * Nat.pow 10 e.toNat else b : ℕ) : ℝ) * c = 10 ^ e := by
  have hb' : (0 : ℝ) < b := by exact_mod_cast hb
  split
  · next h =>
    obtain ⟨n, rfl⟩ := Int.eq_ofNat_of_zero_le h
    refine ⟨1 / b, by positivity, by ring, ?_⟩
    rw [Int.toNat_natCast, zpow_natCast, Nat.pow_eq]
    push_cast
    field_simp
  · next h =>
    obtain ⟨n, hn⟩ := Int.eq_ofNat_of_zero_le (by omega : 0 ≤ -e)
    refine ⟨10 ^ e / b, by positivity, ?_, by field_simp⟩
    rw [hn, show e = -(n : ℤ) by omega, Int.toNat_natCast, zpow_neg, zpow_natCast, Nat.pow_eq]
    push_cast
    field_simp

section

variable {m : ℕ} {q : ℤ} {n : ℕ}

theorem holds_iff_contains {a b : ℕ} (hratio : Binary64.ratio 1 (q - 2) = (a, b)) (i : Interval)
    (e : ℤ) (x : ℕ) :
    i.holds (if 0 ≤ e then a else a * Nat.pow 10 (-e).toNat)
        (x * if 0 ≤ e then b * Nat.pow 10 e.toNat else b) = true ↔
      i.Contains (2 ^ (q - 2)) (x * 10 ^ e) := by
  have hb := Binary64.ratio_snd_pos 1 (q - 2)
  have hunit := ratio_one (q - 2)
  rw [hratio] at hb hunit
  obtain ⟨c, hc, hscale, hstep⟩ := exists_common hb e
  rw [i.holds_iff hc, Nat.cast_mul, mul_assoc, hscale, hstep, hunit]

theorem contains_of_onGrid? {d : Decimal} (h : onGrid? m q n = some d) :
    (interval m q).Contains (2 ^ (q - 2)) d.toReal := by
  revert h
  fun_cases onGrid? m q n
  case case1 => exact nofun
  case case2 hratio e _ _ _ _ _ i _ hbelow =>
    rintro ⟨⟩
    exact (holds_iff_contains hratio i e _).1 hbelow
  case case3 hratio e _ _ _ _ _ i habove _ =>
    rintro ⟨⟩
    exact (holds_iff_contains hratio i e _).1 habove
  case case4 hratio e _ _ _ _ _ i _ hbelow _ _ _ =>
    rintro ⟨⟩
    exact (holds_iff_contains hratio i e _).1 hbelow
  case case5 hratio e _ _ _ _ _ i habove _ _ _ _ =>
    rintro ⟨⟩
    exact (holds_iff_contains hratio i e _).1 habove

/-- A grid is given up when neither neighbour of the double rounds to it. -/
theorem exists_neighbours_of_onGrid?_eq_none (hm : 0 < m) (h : onGrid? m q n = none) :
    ∃ (below : ℕ) (e : ℤ), (10 : ℝ) ^ (e + n - 1) ≤ 4 * m * 2 ^ (q - 2) ∧
      below * (10 : ℝ) ^ e ≤ 4 * m * 2 ^ (q - 2) ∧
      4 * m * 2 ^ (q - 2) < (below + 1) * (10 : ℝ) ^ e ∧
      ¬ (interval m q).Contains (2 ^ (q - 2)) (below * 10 ^ e) ∧
      ¬ (interval m q).Contains (2 ^ (q - 2)) ((below + 1) * 10 ^ e) := by
  revert h
  fun_cases onGrid? m q n
  case case1 a b hratio e scale step value below above i habove hbelow =>
    intro _
    have hb := Binary64.ratio_snd_pos 1 (q - 2)
    have hunit := ratio_one (q - 2)
    rw [hratio] at hb hunit
    obtain ⟨c, hc, (hscale : (scale : ℝ) * c = a / b), (hstep : (step : ℝ) * c = 10 ^ e)⟩ :=
      exists_common hb e
    have ha : 0 < a := by
      have ha := ratio_one_fst_pos (q - 2)
      rwa [hratio] at ha
    have hstep' : 0 < step := by
      unfold step
      split
      · exact Nat.mul_pos hb (Nat.pow_pos (by norm_num))
      · exact hb
    have hvalue : 4 * m * 2 ^ (q - 2) = (value : ℝ) * c := by
      rw [← hunit, ← hscale]
      push_cast [value]
      ring
    refine ⟨below, e, ?_, ?_, ?_, ?_, ?_⟩
    · have hsize := zpow_magnitude_le (a := 4 * m * a) (by positivity) hb
      rw [show e + n - 1 = magnitude (4 * m * a) b - 1 by simp only [e]; omega, ← hunit]
      refine hsize.trans_eq ?_
      push_cast
      ring
    · rw [hvalue, ← hstep, ← mul_assoc]
      gcongr
      exact_mod_cast Nat.div_mul_le_self value step
    · rw [hvalue, ← hstep, ← mul_assoc]
      gcongr
      exact_mod_cast Nat.lt_mul_of_div_lt (Nat.lt_succ_self below) hstep'
    · rw [← holds_iff_contains hratio i e, hbelow]
      exact Bool.false_ne_true
    · rw [← Nat.cast_succ, ← holds_iff_contains hratio i e, habove]
      exact Bool.false_ne_true
  all_goals exact nofun

/-- On the grid of seventeen digits a step is shorter than the interval. -/
theorem onGrid?_seventeen_ne_none (hm : 0 < m) (hm' : m < 2 ^ 53) : onGrid? m q 17 ≠ none := by
  intro h
  obtain ⟨below, e, hsize, hle, hlt, hbelow, habove⟩ := exists_neighbours_of_onGrid?_eq_none hm h
  have hunit : (0 : ℝ) < 2 ^ (q - 2) := by positivity
  generalize (2 : ℝ) ^ (q - 2) = unit at *
  rw [show e + (17 : ℕ) - 1 = e + 16 by omega, zpow_add₀ (by norm_num)] at hsize
  generalize (10 : ℝ) ^ e = step at *
  have hlow : ((interval m q).low : ℝ) * unit < 4 * m * unit := by
    gcongr
    exact_mod_cast interval_low_lt hm q
  have hhigh : 4 * m * unit < ((interval m q).high : ℝ) * unit := by
    gcongr
    rw [interval_high]
    push_cast
    linarith
  have hfar : below * step ≤ (interval m q).low * unit := by
    by_contra hnear
    exact hbelow (Interval.contains_of_lt (not_le.1 hnear) (hle.trans_lt hhigh))
  have hfar' : (interval m q).high * unit ≤ (below + 1) * step := by
    by_contra hnear
    exact habove (Interval.contains_of_lt (hlow.trans hlt) (not_le.1 hnear))
  have hwide : (4 * m + (interval m q).low * 10 ^ 16) * unit <
      ((interval m q).high * 10 ^ 16) * unit := by
    gcongr
    exact_mod_cast lt_interval_width hm q hm'
  norm_num at hsize hwide
  linarith

theorem contains_shortest (hm : 0 < m) (hm' : m < 2 ^ 53) :
    (interval m q).Contains (2 ^ (q - 2)) (shortest m q).toReal := by
  obtain ⟨d, hd⟩ : ∃ d, ((List.range 17).findSome? fun i => onGrid? m q (i + 1)) = some d := by
    rw [← Option.ne_none_iff_exists', Ne, List.findSome?_eq_none_iff]
    intro hnone
    exact onGrid?_seventeen_ne_none hm hm' (hnone 16 (by decide))
  obtain ⟨i, -, hi⟩ := List.exists_of_findSome?_eq_some hd
  simp only [shortest, if_neg hm.ne', hd, Option.getD_some, toReal_trimZeros]
  exact contains_of_onGrid? hi

end

/-! ## Distinct doubles -/

open Binary64 (leastExponent)

/-- Intervals that touch have one end in common, and it belongs to both. -/
theorem Interval.closed_of_contains {i j : Interval} {unit unit' x : ℝ} (hi : i.Contains unit x)
    (hj : j.Contains unit' x) (h : i.high * unit ≤ j.low * unit') :
    i.high * unit = j.low * unit' ∧ i.closed = true ∧ j.closed = true := by
  have hhigh : x = i.high * unit := le_antisymm hi.2.1 (h.trans hj.1)
  have hlow : j.low * unit' = x := le_antisymm hj.1 (hi.2.1.trans h)
  refine ⟨by rw [hlow, hhigh], ?_, ?_⟩
  · by_contra hopen
    exact (hi.2.2 (Bool.eq_false_of_not_eq_true hopen)).2 hhigh
  · by_contra hopen
    exact (hj.2.2 (Bool.eq_false_of_not_eq_true hopen)).1 hlow

section

variable {m n : ℕ} {q r : ℤ} {x : ℝ}

theorem not_contains_of_lt (hm : (interval m q).Contains (2 ^ (q - 2)) x) (h : m < n) :
    ¬ (interval n q).Contains (2 ^ (q - 2)) x := by
  intro hn
  have hunit : (0 : ℝ) < 2 ^ (q - 2) := by positivity
  have hlow := le_interval_low n q
  have hends : ((interval m q).high : ℝ) ≤ (interval n q).low := by
    rw [interval_high]
    exact_mod_cast (by omega : 4 * m + 2 ≤ (interval n q).low)
  obtain ⟨htouch, hmeven, hneven⟩ :=
    Interval.closed_of_contains hm hn (mul_le_mul_of_nonneg_right hends hunit.le)
  rw [mul_right_cancel_iff_of_pos hunit, interval_high] at htouch
  have htouch' : 4 * m + 2 = (interval n q).low := by exact_mod_cast htouch
  -- The significands are neighbours, so they cannot both be even.
  rw [interval_closed_iff] at hmeven hneven
  omega

theorem not_contains_of_exponent_lt (hm : m < 2 ^ 53) (hn : 2 ^ 52 ≤ n) (h : q < r)
    (hleast : leastExponent < r) (hmx : (interval m q).Contains (2 ^ (q - 2)) x) :
    ¬ (interval n r).Contains (2 ^ (r - 2)) x := by
  intro hnx
  have hunit : (0 : ℝ) < 2 ^ (q - 2) := by positivity
  have hlow : 2 ^ 54 - 1 ≤ (interval n r).low := by
    have hpow : Nat.pow 2 Binary64.fractionBits = 2 ^ 52 := rfl
    simp only [interval]
    split <;> omega
  have hdouble : ((interval n r).low : ℝ) * 2 * 2 ^ (q - 2) ≤ (interval n r).low * 2 ^ (r - 2) := by
    rw [mul_assoc, ← zpow_one_add₀ (by norm_num)]
    gcongr
    · norm_num
    · omega
  have hends : ((interval m q).high : ℝ) ≤ (interval n r).low * 2 := by
    rw [interval_high]
    exact_mod_cast (by omega : 4 * m + 2 ≤ (interval n r).low * 2)
  obtain ⟨htouch, hmeven, -⟩ := Interval.closed_of_contains hmx hnx
    ((mul_le_mul_of_nonneg_right hends hunit.le).trans hdouble)
  -- Only the largest significand reaches up to the next exponent, and it is odd.
  have hreach : (interval n r).low * 2 ≤ 4 * m + 2 := by
    rw [← htouch, interval_high] at hdouble
    exact_mod_cast le_of_mul_le_mul_right hdouble hunit
  rw [interval_closed_iff] at hmeven
  omega

end

/-- A positive significand and its exponent are the only ones that round from `x`. -/
theorem eq_of_contains {s t : Bool} {m n : ℕ} {q r : ℤ} {x : ℝ}
    (hm : (Binary64.finite s m q).Canonical) (hn : (Binary64.finite t n r).Canonical)
    (hmx : (interval m q).Contains (2 ^ (q - 2)) x) (hnx : (interval n r).Contains (2 ^ (r - 2)) x) :
    m = n ∧ q = r := by
  obtain ⟨hm53, hqleast, -, hmnormal⟩ := hm
  obtain ⟨hn53, hrleast, -, hnnormal⟩ := hn
  rcases lt_trichotomy q r with h | rfl | h
  · exact absurd hnx
      (not_contains_of_exponent_lt hm53 (hnnormal (by omega)) h (by omega) hmx)
  · rcases lt_trichotomy m n with h | rfl | h
    · exact absurd hnx (not_contains_of_lt hmx h)
    · exact ⟨rfl, rfl⟩
    · exact absurd hmx (not_contains_of_lt hnx h)
  · exact absurd hmx
      (not_contains_of_exponent_lt hn53 (hmnormal (by omega)) h (by omega) hnx)

theorem toReal_shortest_eq_zero_iff {m : ℕ} {q : ℤ} (hm : m < 2 ^ 53) :
    (shortest m q).toReal = 0 ↔ m = 0 := by
  constructor
  · intro hzero
    by_contra hne
    have hpos := Nat.pos_of_ne_zero hne
    obtain ⟨hlow, -⟩ := contains_shortest (q := q) hpos hm
    have hlow' : (0 : ℝ) < (interval m q).low := by exact_mod_cast interval_low_pos hpos q
    have hlow'' : 0 < ((interval m q).low : ℝ) * 2 ^ (q - 2) := by positivity
    linarith
  · rintro rfl
    simp [shortest, toReal_eq]

/-- Two finite doubles of one sign with the same shortest decimal are the same. -/
theorem eq_of_toReal_shortest {s t : Bool} {m n : ℕ} {q r : ℤ}
    (hm : (Binary64.finite s m q).Canonical) (hn : (Binary64.finite t n r).Canonical)
    (h : (shortest m q).toReal = (shortest n r).toReal) : m = n ∧ q = r := by
  by_cases hzero : m = 0
  · have hzero' : n = 0 := by
      rw [← toReal_shortest_eq_zero_iff (q := r) hn.1, ← h, toReal_shortest_eq_zero_iff hm.1, hzero]
    obtain ⟨-, -, -, hmnormal⟩ := hm
    obtain ⟨-, -, -, hnnormal⟩ := hn
    subst hzero hzero'
    refine ⟨rfl, ?_⟩
    by_contra hne
    by_cases hq : q = leastExponent
    · exact absurd (hnnormal fun hr => hne (hq.trans hr.symm)) (by decide)
    · exact absurd (hmnormal hq) (by decide)
  · have hzero' : n ≠ 0 := by
      rwa [Ne, ← toReal_shortest_eq_zero_iff (q := r) hn.1, ← h, toReal_shortest_eq_zero_iff hm.1]
    have hmx := contains_shortest (q := q) (Nat.pos_of_ne_zero hzero) hm.1
    rw [h] at hmx
    exact eq_of_contains hm hn hmx (contains_shortest (Nat.pos_of_ne_zero hzero') hn.1)

end QuadOpt.Decimal
