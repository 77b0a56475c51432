import Mathlib
import CrudRoutes.Auth.Token

/-!
Doubles from their bits, and the whole numbers among them. Lean's doubles are their bit patterns,
packed from and unpacked to sign, exponent and mantissa; packing what unpacking a valid pattern
gives is the pattern again (`pack_unpack`), so a double made from bits that are no NaN has
those bits (`toNat_toBits_ofBits`) and its fields are read back from them
(`ofFloat_ofBits_normal`). A whole number below `2^53` is its own nearest double: reading it
gives a normal double with the number in its mantissa, which whole seconds round down to the
number again (`nearest_whole`).
-/

namespace CrudRoutes.Decimal

open Float.Model Float.Model.UnpackedFloat

section Fields

variable (b : BitVec Format.binary64.numBits)

theorem toNat_unpackExponent : (unpackExponent b).toNat = b.toNat / 2 ^ 52 % 2 ^ 11 := by
  simp [unpackExponent, Nat.shiftRight_eq_div_pow]

theorem toNat_unpackMantissa : (unpackMantissa b).toNat = b.toNat % 2 ^ 52 := by
  simp [unpackMantissa]

theorem sign_toBitVec_ofBitVec (v : BitVec 1) : (Sign.ofBitVec v).toBitVec = v := by
  revert v; decide

theorem packComponents_fields :
    packComponents .binary64 (Sign.ofBitVec (unpackSign b)) (unpackExponent b)
      (unpackMantissa b) = b := by
  simp only [packComponents, sign_toBitVec_ofBitVec, unpackSign, unpackExponent, unpackMantissa]
  ext i hi
  grind

theorem packComponents_eq {e : BitVec Format.binary64.exponentBits}
    {m : BitVec Format.binary64.mantissaBitsWithoutImplicit} (he : unpackExponent b = e)
    (hm : unpackMantissa b = m) : packComponents .binary64 (Sign.ofBitVec (unpackSign b)) e m = b := by
  subst he hm
  exact packComponents_fields b

end Fields

theorem toNat_one_append (m : BitVec 52) : (1#1 ++ m).toNat = 2 ^ 52 + m.toNat := by
  rw [BitVec.toNat_append, BitVec.toNat_ofNat, ← Nat.shiftLeft_add_eq_or_of_lt m.isLt]
  simp

/-- Packing what unpacking a valid word gives is the word again. -/
theorem pack_unpack {b : BitVec Format.binary64.numBits} (hv : Format.binary64.Valid b) :
    UnpackedFloat.pack .binary64 (unpack .binary64 b) = b := by
  have hE := toNat_unpackExponent b
  have hM := toNat_unpackMantissa b
  have hElt : (unpackExponent b).toNat < 2 ^ 11 := (unpackExponent b).isLt
  have hMlt : (unpackMantissa b).toNat < 2 ^ 52 := (unpackMantissa b).isLt
  rw [UnpackedFloat.unpack]
  split_ifs with hexp hmant hzero hmant0
  · -- infinity
    exact packComponents_eq b hexp hmant
  · -- a NaN is the canonical one
    exact (hv.eq_packedNaN hexp hmant).symm
  · -- zero
    exact packComponents_eq b hzero hmant0
  · -- subnormal: the exponent field is zero and the fraction has fewer than 52 bits
    have hE0 : (unpackExponent b).toNat = 0 := by rw [hzero]; rfl
    have hpos : 0 < (unpackMantissa b).toNat := by
      rw [Nat.pos_iff_ne_zero]; intro h; exact hmant0 (BitVec.eq_of_toNat_eq (by simpa using h))
    have hlog : (unpackMantissa b).toNat.log2 < 52 := (Nat.log2_lt (by omega)).2 hMlt
    rw [UnpackedFloat.pack]
    simp only [hE0]
    rw [if_neg (by decide), if_neg (by simp [Format.mantissaBits]; omega), ← hzero,
      BitVec.ofNat_toNat, BitVec.setWidth_eq, packComponents_fields]
  · -- normal: the implicit bit puts the mantissa at 53 bits
    have hne : (unpackExponent b).toNat ≠ 2 ^ 11 - 1 := fun h =>
      hexp (BitVec.eq_of_toNat_eq (by simpa using h))
    have hnz : (unpackExponent b).toNat ≠ 0 := fun h =>
      hzero (BitVec.eq_of_toNat_eq (by simpa using h))
    have hlog : (2 ^ 52 + (unpackMantissa b).toNat).log2 = 52 := by
      apply le_antisymm
      · exact Nat.lt_succ_iff.1 ((Nat.log2_lt (by omega)).2 (by omega))
      · exact (Nat.le_log2 (by omega)).2 (by omega)
    rw [UnpackedFloat.pack]
    simp only [toNat_one_append, hlog]
    rw [if_neg (by simp [Format.exponentBias]; omega), if_pos (by decide)]
    refine packComponents_eq b (BitVec.eq_of_toNat_eq ?_) (BitVec.eq_of_toNat_eq ?_)
    · rw [BitVec.toNat_ofNat, show 2 ^ Format.binary64.exponentBits = 2 ^ 11 from rfl]
      omega
    · rw [BitVec.toNat_ofNat, show 2 ^ Format.binary64.mantissaBitsWithoutImplicit = 2 ^ 52 from rfl]
      omega

theorem toBits_ofBits (u : UInt64) (hv : Format.binary64.Valid u.toBitVec) :
    (Float.ofBits u).toBits = u := by
  show UInt64.ofBitVec (UnpackedFloat.pack .binary64 (unpack .binary64 u.toBitVec)) = u
  rw [pack_unpack hv]

theorem valid_of_exponent {b : BitVec Format.binary64.numBits}
    (h : b.toNat / 2 ^ 52 % 2 ^ 11 ≠ 2 ^ 11 - 1) : Format.binary64.Valid b := by
  refine ⟨fun he _ => absurd ?_ h⟩
  rw [← toNat_unpackExponent, he]
  rfl

/-- The bits of a double made from the bits of a number below `2^64` that is no NaN. -/
theorem toNat_toBits_ofBits {n : Nat} (hn : n < 2 ^ 64) (he : n / 2 ^ 52 % 2 ^ 11 ≠ 2 ^ 11 - 1) :
    (Float.ofBits (UInt64.ofNat n)).toBits.toNat = n := by
  have hv : (UInt64.ofNat n).toNat = n := UInt64.toNat_ofNat_of_lt hn
  rw [toBits_ofBits _ (valid_of_exponent (by rw [UInt64.toNat_toBitVec, hv]; exact he)), hv]

theorem pow2_neg (j : Nat) : pow2 (-(j : Int)) = (1, 2 ^ j) := by
  rcases Nat.eq_zero_or_pos j with rfl | hj
  · rfl
  · rw [pow2, if_neg (by omega)]
    simp

theorem nearestRatio_whole (neg : Bool) (m : Nat) (h0 : 0 < m) (hm : m < 2 ^ 53) :
    nearestRatio neg m 1 = some (Float.ofBits (UInt64.ofNat ((if neg then 2 ^ 63 else 0) +
      (m.log2 + 1023) * 2 ^ 52 + (m * 2 ^ (52 - m.log2) - 2 ^ 52)))) := by
  have hk : m.log2 < 53 := (Nat.log2_lt (by omega)).2 hm
  have hlo : 2 ^ m.log2 ≤ m := Nat.log2_self_le (by omega)
  have hhi : m < 2 ^ (m.log2 + 1) := Nat.lt_log2_self
  have hq0 : (m.log2 : Int) - (Nat.log2 1 : Int) - 52 = -((52 - m.log2 : Nat) : Int) := by
    have h1 : Nat.log2 1 < 1 := (Nat.log2_lt (by decide)).2 (by decide)
    omega
  have hq1 : -((52 - m.log2 : Nat) : Int) - 1 = -((53 - m.log2 : Nat) : Int) := by omega
  have hfit : m * 2 ^ (52 - m.log2) < 2 ^ 53 := by
    calc m * 2 ^ (52 - m.log2) < 2 ^ (m.log2 + 1) * 2 ^ (52 - m.log2) :=
          Nat.mul_lt_mul_of_pos_right hhi (by positivity)
      _ = 2 ^ 53 := by rw [← pow_add]; congr 1; omega
  have hnofit : ¬ m * 2 ^ (53 - m.log2) < 2 ^ 53 := by
    rw [not_lt]
    calc 2 ^ 53 = 2 ^ m.log2 * 2 ^ (53 - m.log2) := by rw [← pow_add]; congr 1; omega
      _ ≤ m * 2 ^ (53 - m.log2) := Nat.mul_le_mul_right _ hlo
  have hnorm : 2 ^ 52 ≤ m * 2 ^ (52 - m.log2) := by
    calc 2 ^ 52 = 2 ^ m.log2 * 2 ^ (52 - m.log2) := by rw [← pow_add]; congr 1; omega
      _ ≤ m * 2 ^ (52 - m.log2) := Nat.mul_le_mul_right _ hlo
  have hq : ¬ -((52 - m.log2 : Nat) : Int) < -1074 := by omega
  have hr : (decide (2 * 0 > 1) || 2 * 0 == 1 && m * 2 ^ (52 - m.log2) % 2 == 1) = false := by
    simp
  have hne : m * 2 ^ (52 - m.log2) ≠ 2 ^ 53 := by omega
  have hsub : ¬ m * 2 ^ (52 - m.log2) < 2 ^ 52 := by omega
  have hexp : ¬ -((52 - m.log2 : Nat) : Int) + 1075 ≥ 2047 := by omega
  unfold nearestRatio
  simp only [hq0, hq1, hq, Nat.pos_iff_ne_zero.1 h0, pow2_neg, Nat.pow_eq, one_mul, Nat.div_one, Nat.mod_one, hfit, hnofit,
    decide_true, decide_false, if_true, if_false, Bool.false_eq_true, beq_iff_eq]
  simp only [hr, hne, hsub, hexp, Bool.false_eq_true, if_false]
  have key : (-((52 - m.log2 : Nat) : Int) + 1075).toNat = m.log2 + 1023 := by omega
  simp only [key]

/-- The fields of a normal double read back from its bits. -/
theorem ofFloat_ofBits_normal (neg : Bool) (E F : Nat) (hE : 0 < E) (hE' : E < 2047)
    (hF : F < 2 ^ 52) :
    Bits.ofFloat (Float.ofBits (UInt64.ofNat ((if neg then 2 ^ 63 else 0) + E * 2 ^ 52 + F))) =
      .finite ⟨neg, F + 2 ^ 52, (E : Int) - 1075, F == 0 && decide (E > 1)⟩ := by
  generalize hn : (if neg then 2 ^ 63 else 0) + E * 2 ^ 52 + F = n
  have hsign : (n / 2 ^ 63 == 1) = neg := by cases neg <;> simp at hn ⊢ <;> omega
  have hfield : n / 2 ^ 52 % 2048 = E := by cases neg <;> simp at hn <;> omega
  have hfrac : n % 2 ^ 52 = F := by cases neg <;> simp at hn <;> omega
  have hlt : n < 2 ^ 64 := by cases neg <;> simp at hn <;> omega
  unfold Bits.ofFloat
  rw [toNat_toBits_ofBits hlt (by omega)]
  simp only [Nat.pow_eq, hsign, hfield, hfrac, show (E == 2047) = false by simp; omega,
    show (E == 0) = false by simp; omega, Bool.false_eq_true, if_false]

theorem floorSeconds_of_finite {x : Float} {neg tight : Bool} {M m j : Nat}
    (hx : Bits.ofFloat x = .finite ⟨neg, M, -(j : Int), tight⟩) (hM : M = m * 2 ^ j)
    (hm : m < 2 ^ 63) : Token.floorSeconds x = if neg then -(m : Int) else m := by
  subst hM
  have hd : 0 < 2 ^ j := by positivity
  have hup : (m * 2 ^ j + 2 ^ j - 1) / 2 ^ j = m := by
    rw [Nat.add_sub_assoc hd, Nat.mul_comm, Nat.mul_add_div hd, Nat.div_eq_of_lt (by omega),
      Nat.add_zero]
  have hdown : m * 2 ^ j / 2 ^ j = m := Nat.mul_div_cancel _ hd
  have hmin : Token.int64Min = -9223372036854775808 := by decide
  have hmax : Token.int64Max = 9223372036854775807 := by decide
  unfold Token.floorSeconds
  rw [hx]
  cases neg
  · simp only [pow2_neg, mul_one, Bool.false_eq_true, if_false, hdown, hmin, hmax]
    omega
  · simp only [pow2_neg, mul_one, if_true, hup, hmin, hmax]
    omega

theorem ofFloat_ofBits_zero (neg : Bool) :
    Bits.ofFloat (Float.ofBits (UInt64.ofNat (if neg then 2 ^ 63 else 0))) =
      .finite ⟨neg, 0, -1074, false⟩ := by
  generalize hn : (if neg then 2 ^ 63 else 0) = n
  have hsign : (n / 2 ^ 63 == 1) = neg := by cases neg <;> simp at hn ⊢ <;> omega
  have hfield : n / 2 ^ 52 % 2048 = 0 := by cases neg <;> simp at hn <;> omega
  have hfrac : n % 2 ^ 52 = 0 := by cases neg <;> simp at hn <;> omega
  have hlt : n < 2 ^ 64 := by cases neg <;> simp at hn <;> omega
  unfold Bits.ofFloat
  rw [toNat_toBits_ofBits hlt (by omega)]
  simp only [Nat.pow_eq, hsign, hfield, hfrac, show (0 == 2047) = false from rfl,
    beq_self_eq_true, Bool.false_eq_true, if_false, if_true]

/-- A whole number below `2^53`, read with a sign, becomes a double that floors back to it. -/
theorem nearest_whole (neg : Bool) (m : Nat) (hm : m < 2 ^ 53) :
    ∃ x, nearest neg m 0 = some x ∧ Token.floorSeconds x = if neg then -(m : Int) else m := by
  rcases Nat.eq_zero_or_pos m with rfl | h0
  · refine ⟨_, rfl, ?_⟩
    rw [Nat.pow_eq, floorSeconds_of_finite (j := 1074) (ofFloat_ofBits_zero neg) (zero_mul _).symm (by decide)]
  · have hk : m.log2 < 53 := (Nat.log2_lt (by omega)).2 hm
    have hlo : 2 ^ m.log2 ≤ m := Nat.log2_self_le (by omega)
    have hnorm : 2 ^ 52 ≤ m * 2 ^ (52 - m.log2) := by
      calc 2 ^ 52 = 2 ^ m.log2 * 2 ^ (52 - m.log2) := by rw [← pow_add]; congr 1; omega
        _ ≤ m * 2 ^ (52 - m.log2) := Nat.mul_le_mul_right _ hlo
    have hfit : m * 2 ^ (52 - m.log2) < 2 ^ 53 := by
      calc m * 2 ^ (52 - m.log2) < 2 ^ (m.log2 + 1) * 2 ^ (52 - m.log2) :=
            Nat.mul_lt_mul_of_pos_right Nat.lt_log2_self (by positivity)
        _ = 2 ^ 53 := by rw [← pow_add]; congr 1; omega
    have hdigits : digitCount m ≤ 16 :=
      (Nat.length_toDigits_le_iff (by decide) (by decide)).2 (by omega)
    have hnear : nearest neg m 0 = nearestRatio neg m 1 := by
      unfold nearest
      simp only [show (m == 0) = false by simp; omega, Bool.false_eq_true, if_false,
        show ¬ ((digitCount m : Int) + 0 > 310) by omega,
        show ¬ ((digitCount m : Int) + 0 < -330) by omega]
      simp only [show pow10 0 = (1, 1) by simp [pow10], mul_one]
    have hx := ofFloat_ofBits_normal neg (m.log2 + 1023) (m * 2 ^ (52 - m.log2) - 2 ^ 52)
      (by omega) (by omega) (by omega)
    rw [Nat.sub_add_cancel hnorm,
      show ((m.log2 + 1023 : Nat) : Int) - 1075 = -((52 - m.log2 : Nat) : Int) by omega] at hx
    exact ⟨_, hnear.trans (nearestRatio_whole neg m h0 hm), floorSeconds_of_finite hx rfl (by omega)⟩

end CrudRoutes.Decimal
