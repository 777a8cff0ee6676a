import Mathlib
import QuadOpt.Number.Binary64

/-!
# Doubles by their bits

Operations on doubles unpack their arguments and pack the result. What they unpack to is what the bits
say, and packing loses nothing of a number that a double can hold. So turning the sign of a double
turns its sign bit and nothing else.
-/

namespace QuadOpt.Binary64

open Float.Model (UnpackedFloat)
open Float.Model.Format (binary64)
open Float.Model.UnpackedFloat
  (Sign unpack unpackMantissa unpackExponent unpackSign pack packComponents)

/-! ## Fields -/

def ofFields (negative : Bool) (exponent fraction : Nat) : Binary64 :=
  if exponent = 2 ^ 11 - 1 then
    if fraction = 0 then infinite negative else nan
  else if exponent = 0 then finite negative fraction leastExponent
  else finite negative (2 ^ 52 + fraction) (leastExponent + (exponent - 1 : Nat))

theorem ofBits_eq (bits : Nat) :
    ofBits bits =
      ofFields (bits / 2 ^ 63 % 2 == 1) (bits / 2 ^ 52 % 2 ^ 11) (bits % 2 ^ 52) := rfl

/-- The significand has at most 53 bits, and exactly so many unless the exponent is the least. -/
def Canonical : Binary64 → Prop
  | finite _ m q => m < 2 ^ 53 ∧ leastExponent ≤ q ∧ q ≤ 971 ∧ (q ≠ leastExponent → 2 ^ 52 ≤ m)
  | _ => True

theorem canonical_ofFields (negative : Bool) {exponent fraction : Nat} (he : exponent < 2 ^ 11)
    (hf : fraction < 2 ^ 52) : (ofFields negative exponent fraction).Canonical := by
  unfold ofFields
  split
  · split <;> trivial
  · split <;> simp only [Canonical, leastExponent] <;> omega

theorem canonical_ofFloat (x : Float) : (ofFloat x).Canonical := by
  rw [ofFloat, ofBits_eq]
  exact canonical_ofFields _ (Nat.mod_lt _ (Nat.two_pow_pos _)) (Nat.mod_lt _ (Nat.two_pow_pos _))

theorem toNat_unpackMantissa (b : BitVec 64) :
    (@unpackMantissa binary64 b).toNat = b.toNat % 2 ^ 52 := by
  simp [unpackMantissa, BitVec.extractLsb]

theorem toNat_unpackExponent (b : BitVec 64) :
    (@unpackExponent binary64 b).toNat = b.toNat / 2 ^ 52 % 2 ^ 11 := by
  simp [unpackExponent, BitVec.extractLsb, Nat.shiftRight_eq_div_pow]

theorem toNat_unpackSign (b : BitVec 64) :
    (@unpackSign binary64 b).toNat = b.toNat / 2 ^ 63 % 2 := by
  simp [unpackSign, BitVec.extractLsb, Nat.shiftRight_eq_div_pow]

theorem toNat_packComponents (s : Sign) (e : BitVec 11) (m : BitVec 52) :
    (packComponents binary64 s e m).toNat =
      s.toBitVec.toNat * 2 ^ 63 + e.toNat * 2 ^ 52 + m.toNat := by
  show (s.toBitVec ++ e ++ m).toNat = _
  rw [BitVec.toNat_append, ← Nat.shiftLeft_add_eq_or_of_lt m.isLt, BitVec.toNat_append,
    ← Nat.shiftLeft_add_eq_or_of_lt e.isLt, Nat.shiftLeft_eq, Nat.shiftLeft_eq]
  omega

theorem unpackSign_packComponents (s : Sign) (e : BitVec 11) (m : BitVec 52) :
    @unpackSign binary64 (packComponents binary64 s e m) = s.toBitVec := by
  apply BitVec.eq_of_toNat_eq
  rw [toNat_unpackSign, toNat_packComponents]
  omega

theorem ofBitVec_toBitVec (s : Sign) : Sign.ofBitVec s.toBitVec = s := by
  cases s <;> rfl

theorem ofBitVec_beq_negative (s : BitVec 1) :
    (Sign.ofBitVec s == Sign.negative) = (s.toNat == 1) := by
  revert s
  decide

theorem toNat_one_append (m : BitVec 52) : (1#1 ++ m).toNat = 2 ^ 52 + m.toNat := by
  rw [BitVec.toNat_append, ← Nat.shiftLeft_add_eq_or_of_lt m.isLt]
  rfl

/-! ## Unpacked doubles -/

def ofUnpacked : UnpackedFloat → Binary64
  | .notANumber => nan
  | .infinity s => infinite (s == .negative)
  | .zero s => finite (s == .negative) 0 leastExponent
  | .finite s m e _ => finite (s == .negative) m e

theorem ofUnpacked_unpack (b : BitVec 64) :
    ofUnpacked (unpack binary64 b) =
      ofFields (Sign.ofBitVec (@unpackSign binary64 b) == .negative)
        (@unpackExponent binary64 b).toNat (@unpackMantissa binary64 b).toNat := by
  have htop : @unpackExponent binary64 b = -1#_ ↔
      (@unpackExponent binary64 b).toNat = 2 ^ 11 - 1 := by
    rw [← BitVec.toNat_inj]
    rfl
  have hbottom : @unpackExponent binary64 b = 0#_ ↔ (@unpackExponent binary64 b).toNat = 0 := by
    rw [← BitVec.toNat_inj]
    rfl
  have hzero : @unpackMantissa binary64 b = 0#_ ↔ (@unpackMantissa binary64 b).toNat = 0 := by
    rw [← BitVec.toNat_inj]
    rfl
  unfold unpack ofFields
  simp only [htop, hbottom, hzero]
  by_cases h1 : (@unpackExponent binary64 b).toNat = 2 ^ 11 - 1
  · rw [if_pos h1, if_pos h1]
    split <;> rfl
  rw [if_neg h1, if_neg h1]
  by_cases h0 : (@unpackExponent binary64 b).toNat = 0
  · -- A zero, or a number below the least normal one.
    rw [if_pos h0, if_pos h0, h0]
    split
    · next hm =>
      rw [hm]
      rfl
    · rfl
  · rw [if_neg h0, if_neg h0, ofUnpacked, toNat_one_append]
    congr 1
    simp only [Float.Model.Format.exponentBias, leastExponent]
    omega

theorem ofFloat_eq (x : Float) : ofFloat x = ofUnpacked x.toModel.unpack := by
  rw [Float.Model.unpack, ofUnpacked_unpack, ofBitVec_beq_negative, toNat_unpackSign,
    toNat_unpackExponent, toNat_unpackMantissa]
  rfl

theorem ofUnpacked_unpack_packComponents (s : Sign) (e : BitVec 11) (m : BitVec 52) :
    ofUnpacked (unpack binary64 (packComponents binary64 s e m)) =
      ofFields (s == .negative) e.toNat m.toNat := by
  rw [ofUnpacked_unpack, unpackSign_packComponents, ofBitVec_toBitVec,
    Float.Model.UnpackedFloat.unpackExponent_packComponents,
    Float.Model.UnpackedFloat.unpackMantissa_packComponents]

/-- Packing loses nothing that a double can hold. -/
theorem ofUnpacked_unpack_pack {u : UnpackedFloat} (h : (ofUnpacked u).Canonical) :
    ofUnpacked (unpack binary64 (pack binary64 u)) = ofUnpacked u := by
  cases u with
  | notANumber => rfl
  | infinity s => exact ofUnpacked_unpack_packComponents s _ _
  | zero s => exact ofUnpacked_unpack_packComponents s _ _
  | finite s m e hm =>
    obtain ⟨hm53, hleast, hmost, hnormal⟩ := h
    rw [leastExponent] at hleast hnormal
    have hlog : m.log2 + 1 = binary64.mantissaBits ↔ 2 ^ 52 ≤ m := by
      have h52 := @Nat.log2_lt m 52 (Nat.ne_of_gt hm)
      have h53 := @Nat.log2_lt m 53 (Nat.ne_of_gt hm)
      rw [show binary64.mantissaBits = 53 from rfl]
      omega
    have hbias : (e + binary64.exponentBias + binary64.mantissaBitsWithoutImplicit).toNat =
        (e + 1075).toNat := by
      congr 1
      rw [show (binary64.exponentBias : Int) = 1023 from rfl,
        show (binary64.mantissaBitsWithoutImplicit : Int) = 52 from rfl]
      omega
    have hroom : ¬ 2 ^ binary64.exponentBits ≤ (e + 1075).toNat + 1 := by
      rw [show binary64.exponentBits = 11 from rfl]
      omega
    unfold pack
    dsimp only
    rw [hbias, if_neg hroom]
    split
    · next hfull =>
      rw [hlog] at hfull
      rw [ofUnpacked_unpack_packComponents, BitVec.toNat_ofNat, BitVec.toNat_ofNat, ofFields,
        if_neg (by omega), if_neg (by omega), ofUnpacked]
      congr 1
      · omega
      · rw [leastExponent]
        omega
    · next hsmall =>
      rw [hlog] at hsmall
      rw [ofUnpacked_unpack_packComponents, BitVec.toNat_ofNat, BitVec.toNat_ofNat, ofFields,
        if_neg (by omega), if_pos (by omega), ofUnpacked]
      congr 1
      · omega
      · rw [leastExponent]
        omega

/-! ## Signs -/

def neg : Binary64 → Binary64
  | nan => nan
  | infinite negative => infinite !negative
  | finite negative m q => finite (!negative) m q

theorem Canonical.neg {b : Binary64} (h : b.Canonical) : b.neg.Canonical := by
  cases b <;> exact h

theorem ofUnpacked_neg (u : UnpackedFloat) : ofUnpacked u.neg = (ofUnpacked u).neg := by
  rcases u with s | _ | s | ⟨s, m, e, hm⟩
  · cases s <;> rfl
  · rfl
  · cases s <;> rfl
  · cases s <;> rfl

theorem ofFloat_neg (x : Float) : ofFloat (-x) = (ofFloat x).neg := by
  have hcanonical : (ofUnpacked x.toModel.unpack.neg).Canonical := by
    rw [ofUnpacked_neg, ← ofFloat_eq]
    exact (canonical_ofFloat x).neg
  rw [ofFloat_eq, ofFloat_eq x, ← ofUnpacked_neg]
  exact ofUnpacked_unpack_pack hcanonical

end QuadOpt.Binary64
