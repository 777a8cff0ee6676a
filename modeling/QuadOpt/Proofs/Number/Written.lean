import QuadOpt.Number.Notation
import QuadOpt.Proofs.Number.Shortest

/-!
# Doubles written in full

A number written without an exponent can be read again: its digits and the place of its point give
back the decimal. With a sign in front, and a word for each infinity, the text of a double that is a
number says which double it is.
-/

namespace QuadOpt

/-! ## Bits -/

namespace Binary64

/-- The bits of a double, where all that is no number has the same ones. -/
def toBits : Binary64 → ℕ
  | nan => (2 ^ 11 - 1) * 2 ^ 52 + 2 ^ 51
  | infinite negative => negative.toNat * 2 ^ 63 + (2 ^ 11 - 1) * 2 ^ 52
  | finite negative m q => negative.toNat * 2 ^ 63 + (q - leastExponent).toNat * 2 ^ 52 + m

theorem toNat_beq_one {n : ℕ} (h : n < 2) : (n == 1).toNat = n := by
  interval_cases n <;> rfl

theorem toBits_ofBits {bits : ℕ} (h : bits < 2 ^ 64) (hnan : ofBits bits ≠ nan) :
    (ofBits bits).toBits = bits := by
  have hsign := toNat_beq_one (n := bits / 2 ^ 63 % 2) (by omega)
  rw [ofBits_eq] at hnan ⊢
  unfold ofFields at hnan ⊢
  split
  · next htop =>
    rw [if_pos htop] at hnan
    split
    · rw [toBits, hsign]
      omega
    · next hfraction =>
      rw [if_neg hfraction] at hnan
      exact absurd rfl hnan
  · split
    · rw [toBits, hsign]
      omega
    · rw [toBits, hsign]
      omega

/-- What a double says determines it, unless it says that it is no number. -/
theorem eq_of_ofFloat {x y : Float} (h : ofFloat x = ofFloat y) (hnan : ofFloat x ≠ nan) : x = y := by
  have hnan' : ofFloat y ≠ nan := by rwa [← h]
  have hbits : x.toBits.toNat = y.toBits.toNat := by
    rw [← toBits_ofBits x.toBits.toNat_lt hnan, ← toBits_ofBits y.toBits.toNat_lt hnan']
    exact congrArg toBits h
  obtain ⟨⟨bits, _⟩⟩ := x
  obtain ⟨⟨bits', _⟩⟩ := y
  obtain rfl : bits = bits' := UInt64.toNat_inj.1 hbits
  rfl

end Binary64

/-! ## Positional texts -/

namespace Notation

/-- The characters are digits with at most one point among them, and stand for `x`. -/
inductive Positional (x : ℝ) : List Char → Prop where
  | whole {cs : List Char} (hcs : ∀ c ∈ cs, c.isDigit = true)
    (hvalue : (Nat.ofDigitChars 10 cs 0 : ℝ) = x) : Positional x cs
  | point {cs ds : List Char} (hcs : ∀ c ∈ cs, c.isDigit = true)
    (hds : ∀ c ∈ ds, c.isDigit = true)
    (hvalue : (Nat.ofDigitChars 10 (cs ++ ds) 0 : ℝ) * 10 ^ (-(ds.length : ℤ)) = x) :
    Positional x (cs ++ '.' :: ds)

theorem point_notMem {cs : List Char} (h : ∀ c ∈ cs, c.isDigit = true) : '.' ∉ cs := by
  intro hmem
  exact absurd (h '.' hmem) (by decide)

theorem Positional.unique {x y : ℝ} {cs : List Char} (hx : Positional x cs) (hy : Positional y cs) :
    x = y := by
  rcases hx with ⟨hcs, hvalue⟩ | @⟨cs, ds, hcs, hds, hvalue⟩
  · rcases hy with ⟨-, hvalue'⟩ | @⟨cs', ds', -, -, -⟩
    · exact hvalue.symm.trans hvalue'
    · exact absurd (by simp) (point_notMem hcs)
  · generalize htext : cs ++ '.' :: ds = text at hy
    rcases hy with ⟨hcs', -⟩ | @⟨cs', ds', -, -, hvalue'⟩
    · subst htext
      exact absurd (by simp) (point_notMem hcs')
    · obtain ⟨rfl, -, rfl⟩ :=
        (List.append_cons_inj_of_notMem (point_notMem hcs) (point_notMem hds)).1 htext
      exact hvalue.symm.trans hvalue'

theorem Positional.isDigit_or {x : ℝ} {cs : List Char} (h : Positional x cs) {c : Char}
    (hc : c ∈ cs) : c.isDigit = true ∨ c = '.' := by
  rcases h with ⟨hcs, -⟩ | ⟨hcs, hds, -⟩
  · exact .inl (hcs c hc)
  · rw [List.mem_append, List.mem_cons] at hc
    rcases hc with hc | rfl | hc
    · exact .inl (hcs c hc)
    · exact .inr rfl
    · exact .inl (hds c hc)

section

variable (n : ℕ)

theorem toList_digitText : (digitText n).toList = Nat.toDigits 10 n := by
  simp [digitText]

theorem length_digitText : (digitText n).length = Decimal.width n := by
  rw [← String.length_toList, toList_digitText, Decimal.width]

theorem toList_zeros : (zeros n).toList = List.replicate n '0' := by
  simp [zeros]

theorem isDigit_of_mem_digits {c : Char} (h : c ∈ Nat.toDigits 10 n) : c.isDigit = true :=
  Nat.isDigit_of_mem_toDigits (by decide) (by decide) h

theorem isDigit_of_mem_zeros {c : Char} (h : c ∈ List.replicate n '0') : c.isDigit = true := by
  rw [List.eq_of_mem_replicate h]
  rfl

theorem positional_inside (before : ℕ) :
    Positional (n * 10 ^ (-((Decimal.width n - before : ℕ) : ℤ)))
      (((digitText n).take before).toString ++ "." ++
        ((digitText n).drop before).toString).toList := by
  have htext : (((digitText n).take before).toString ++ "." ++
      ((digitText n).drop before).toString).toList =
        (Nat.toDigits 10 n).take before ++ '.' :: (Nat.toDigits 10 n).drop before := by
    simp [toList_digitText]
  rw [htext]
  refine .point (fun c hc => isDigit_of_mem_digits n (List.mem_of_mem_take hc))
    (fun c hc => isDigit_of_mem_digits n (List.mem_of_mem_drop hc)) ?_
  rw [List.take_append_drop, Nat.ofDigitChars_ten_toDigits, List.length_drop, Decimal.width]

theorem positional_outside (after : ℕ) :
    Positional (n * 10 ^ (-((after + Decimal.width n : ℕ) : ℤ)))
      ("0." ++ zeros after ++ digitText n).toList := by
  have htext : ("0." ++ zeros after ++ digitText n).toList =
      ['0'] ++ '.' :: (List.replicate after '0' ++ Nat.toDigits 10 n) := by
    simp [toList_digitText, toList_zeros]
  have hdigits : ∀ c ∈ List.replicate after '0' ++ Nat.toDigits 10 n, c.isDigit = true :=
    List.forall_mem_append.2 ⟨fun _ => isDigit_of_mem_zeros after, fun _ => isDigit_of_mem_digits n⟩
  rw [htext]
  refine .point (by simp) hdigits ?_
  rw [← List.append_assoc, ← List.replicate_one, ← List.replicate_add, Nat.ofDigitChars_append,
    Nat.ofDigitChars_replicate_zero, Nat.mul_zero, Nat.ofDigitChars_ten_toDigits,
    List.length_append, List.length_replicate, Decimal.width]

end

theorem positional_positionalText (d : Decimal) :
    Positional d.toReal (positionalText false d).toList := by
  unfold positionalText
  simp only [length_digitText, Bool.false_eq_true, if_false, String.append_empty]
  split
  · next hwhole =>
    rw [String.toList_append, toList_digitText, toList_zeros]
    refine .whole (List.forall_mem_append.2
      ⟨fun _ => isDigit_of_mem_digits _, fun _ => isDigit_of_mem_zeros _⟩) ?_
    rw [Nat.ofDigitChars_append, Nat.ofDigitChars_ten_toDigits, Nat.ofDigitChars_replicate_zero,
      Decimal.toReal_eq, ← Int.toNat_of_nonneg hwhole, zpow_natCast, Int.toNat_natCast]
    push_cast
    ring
  · next hfraction =>
    obtain ⟨places, hplaces⟩ := Int.eq_ofNat_of_zero_le (by omega : 0 ≤ -d.exponent)
    rw [hplaces, Int.toNat_natCast, Decimal.toReal_eq, ← neg_neg d.exponent, hplaces]
    split
    · next hinside =>
      have hpoint := positional_inside d.digits (Decimal.width d.digits - places)
      rwa [Nat.sub_sub_self (Nat.le_of_lt hinside)] at hpoint
    · next houtside =>
      have hpoint := positional_outside d.digits (places - Decimal.width d.digits)
      rwa [Nat.sub_add_cancel (Nat.le_of_not_lt houtside)] at hpoint

/-! ## Texts of doubles -/

/-- Finite numbers are written in full and integers without a point. -/
structure InFull (f : Notation) : Prop where
  positional : f.positional = always
  pointZero : f.pointZero = false
  infinity : f.infinity = signedInf

namespace InFull

open Binary64 (ofFloat)

variable {f : Notation} (hf : f.InFull) {x y : Float}
include hf

theorem text_of_infinite {s : Bool} (h : ofFloat x = .infinite s) : f.text x = signedInf s := by
  rw [text, h, hf.infinity]

theorem text_of_finite {s : Bool} {m : ℕ} {q : ℤ} (h : ofFloat x = .finite s m q) :
    ∃ cs, Positional (Decimal.shortest m q).toReal cs ∧
      (f.text x).toList = (if s then ['-'] else []) ++ cs := by
  refine ⟨_, positional_positionalText _, ?_⟩
  rw [text, h]
  simp only [finiteText, hf.positional, hf.pointZero, always, if_true, String.toList_append]
  cases s <;> rfl

theorem mem_text {c : Char} (hc : c ∈ (f.text x).toList) :
    c.isDigit = true ∨ c ∈ ".-inf".toList ∨ c ∈ f.nan.toList := by
  cases h : ofFloat x with
  | nan =>
    rw [text, h] at hc
    exact .inr (.inr hc)
  | infinite s =>
    rw [hf.text_of_infinite h] at hc
    refine .inr (.inl ?_)
    revert hc
    cases s <;> simp [signedInf] <;> tauto
  | finite s m q =>
    obtain ⟨cs, hcs, htext⟩ := hf.text_of_finite h
    rw [htext, List.mem_append] at hc
    rcases hc with hc | hc
    · cases s <;> simp_all
    · rcases hcs.isDigit_or hc with hdigit | rfl
      · exact .inl hdigit
      · exact .inr (.inl (by decide))

/-- Only an infinity has letters. -/
theorem text_ne_signedInf {s t : Bool} {m : ℕ} {q : ℤ} (h : ofFloat x = .finite s m q) :
    f.text x ≠ signedInf t := by
  intro hword
  obtain ⟨cs, hcs, htext⟩ := hf.text_of_finite h
  have hletter : 'i' ∈ (f.text x).toList := by
    rw [hword]
    cases t <;> decide
  rw [htext, List.mem_append] at hletter
  rcases hletter with hletter | hletter
  · cases s <;> simp at hletter
  · exact absurd (hcs.isDigit_or hletter) (by decide)

/-- Only a negative double has a sign. -/
theorem minus_mem_text_iff {s : Bool} {m : ℕ} {q : ℤ} (h : ofFloat x = .finite s m q) :
    '-' ∈ (f.text x).toList ↔ s = true := by
  obtain ⟨cs, hcs, htext⟩ := hf.text_of_finite h
  have hminus : '-' ∉ cs := fun hmem => absurd (hcs.isDigit_or hmem) (by decide)
  rw [htext, List.mem_append]
  cases s <;> simp [hminus]

theorem ofFloat_eq_of_text_eq (hx : ofFloat x ≠ .nan) (hy : ofFloat y ≠ .nan)
    (h : f.text x = f.text y) : ofFloat x = ofFloat y := by
  have hcx := Binary64.canonical_ofFloat x
  have hcy := Binary64.canonical_ofFloat y
  rcases hbx : ofFloat x with _ | s | ⟨s, m, q⟩
  · exact absurd hbx hx
  · rcases hby : ofFloat y with _ | t | ⟨t, n, r⟩
    · exact absurd hby hy
    · rw [hf.text_of_infinite hbx, hf.text_of_infinite hby] at h
      cases s <;> cases t <;> first | rfl | exact absurd h (by decide)
    · rw [hf.text_of_infinite hbx] at h
      exact absurd h.symm (hf.text_ne_signedInf hby)
  · rcases hby : ofFloat y with _ | t | ⟨t, n, r⟩
    · exact absurd hby hy
    · rw [hf.text_of_infinite hby] at h
      exact absurd h (hf.text_ne_signedInf hbx)
    · have hsign : s = t := by
        rw [Bool.eq_iff_iff, ← hf.minus_mem_text_iff hbx, ← hf.minus_mem_text_iff hby, h]
      subst hsign
      obtain ⟨cs, hcs, hcstext⟩ := hf.text_of_finite hbx
      obtain ⟨ds, hds, hdstext⟩ := hf.text_of_finite hby
      rw [h, hdstext] at hcstext
      obtain rfl := List.append_cancel_left hcstext
      rw [hbx] at hcx
      rw [hby] at hcy
      obtain ⟨rfl, rfl⟩ := Decimal.eq_of_toReal_shortest hcx hcy (hcs.unique hds)
      rfl

/-- Doubles other than a NaN have the same text only if they are the same. -/
theorem eq_of_text_eq (hx : x.isNaN = false) (hy : y.isNaN = false) (h : f.text x = f.text y) :
    x = y := by
  have hne {z : Float} (hz : z.isNaN = false) : ofFloat z ≠ .nan := by
    rw [Ne, Binary64.ofFloat_eq_nan_iff, hz]
    exact Bool.false_ne_true
  exact Binary64.eq_of_ofFloat (hf.ofFloat_eq_of_text_eq (hne hx) (hne hy) h) (hne hx)

end InFull

end Notation

end QuadOpt
