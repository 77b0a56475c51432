import Mathlib
import CrudRoutes.Text.Utf8
import CrudRoutes.Proofs.PasswordHash

/-!
Reading UTF-8 back. The bytes a string is written in are read back as the string: each
character's encoding is a well-formed sequence of one to four bytes, whose leading byte lies in
the range the decoder expects for its length and whose continuation bytes lie in the ranges the
decoder checks (overlong forms and surrogates never occur in the encoding of a character), so
the decoder takes the character back whole and goes on after its last byte
(`decodeLossy_toUTF8`).
-/

namespace CrudRoutes.Text

theorem mod_lor_mul_two_pow (x k t : Nat) : x % 2 ^ k ||| 2 ^ k * t = 2 ^ k * t + x % 2 ^ k := by
  rw [Nat.lor_comm]
  exact (Nat.two_pow_add_eq_or_of_lt (Nat.mod_lt _ (Nat.two_pow_pos k)) t).symm

/-! The bytes of an encoding as numbers: a leading byte keeps the low bits of its part and
carries the length tag above them; a continuation byte keeps six bits and carries `10`. -/

theorem toNat_lead2 (x : UInt8) : (x &&& 31 ||| 192).toNat = 192 + x.toNat % 32 := by
  simp only [UInt8.toNat_or, UInt8.toNat_and]
  show x.toNat &&& (2 ^ 5 - 1) ||| 2 ^ 5 * 6 = _
  rw [Nat.and_two_pow_sub_one_eq_mod, mod_lor_mul_two_pow]
  norm_num

theorem toNat_lead3 (x : UInt8) : (x &&& 15 ||| 224).toNat = 224 + x.toNat % 16 := by
  simp only [UInt8.toNat_or, UInt8.toNat_and]
  show x.toNat &&& (2 ^ 4 - 1) ||| 2 ^ 4 * 14 = _
  rw [Nat.and_two_pow_sub_one_eq_mod, mod_lor_mul_two_pow]
  norm_num

theorem toNat_lead4 (x : UInt8) : (x &&& 7 ||| 240).toNat = 240 + x.toNat % 8 := by
  simp only [UInt8.toNat_or, UInt8.toNat_and]
  show x.toNat &&& (2 ^ 3 - 1) ||| 2 ^ 3 * 30 = _
  rw [Nat.and_two_pow_sub_one_eq_mod, mod_lor_mul_two_pow]
  norm_num

theorem toNat_cont (x : UInt8) : (x &&& 63 ||| 128).toNat = 128 + x.toNat % 64 := by
  simp only [UInt8.toNat_or, UInt8.toNat_and]
  show x.toNat &&& (2 ^ 6 - 1) ||| 2 ^ 6 * 2 = _
  rw [Nat.and_two_pow_sub_one_eq_mod, mod_lor_mul_two_pow]
  norm_num

theorem toNat_and_mask (x m : UInt8) (k : Nat) (hm : m.toNat = 2 ^ k - 1) :
    (x &&& m).toNat = x.toNat % 2 ^ k := by
  rw [UInt8.toNat_and, hm, Nat.and_two_pow_sub_one_eq_mod]

theorem low6_eq (x : UInt8) : low6 x = x.toNat % 64 :=
  toNat_and_mask x 0x3f 6 rfl

theorem range_eq_true (b lo hi : UInt8) :
    (lo ≤ b && b ≤ hi) = true ↔ lo.toNat ≤ b.toNat ∧ b.toNat ≤ hi.toNat := by
  simp [UInt8.le_iff_toNat_le]

theorem contIn_eq_true (b lo hi : UInt8) :
    contIn b lo hi = true ↔ lo.toNat ≤ b.toNat ∧ b.toNat ≤ hi.toNat :=
  range_eq_true b lo hi

theorem contIn_cont (b : UInt8) (n : Nat) (hb : b.toNat = 128 + n % 64) :
    contIn b 0x80 0xbf = true := by
  rw [contIn_eq_true, hb]
  simp only [UInt8.reduceToNat]
  omega

theorem toNat_shifted (c : Char) (s : UInt32) (hs : s.toNat < 32) :
    ((c.val >>> s).toUInt8).toNat = c.toNat / 2 ^ s.toNat % 256 := by
  rw [UInt32.toNat_toUInt8, UInt32.toNat_shiftRight, Char.toNat_val, Nat.mod_eq_of_lt hs,
    Nat.shiftRight_eq_div_pow]

theorem toNat_low (c : Char) : (c.val.toUInt8).toNat = c.toNat % 256 := by
  rw [UInt32.toNat_toUInt8, Char.toNat_val]

theorem toNat_valid (c : Char) : c.toNat < 0xD800 ∨ (0xDFFF < c.toNat ∧ c.toNat < 0x110000) := by
  have h := c.valid
  simpa [UInt32.isValidChar, Nat.isValidChar, Char.toNat_val] using h

theorem utf8Size_bounds (c : Char) :
    (c.utf8Size = 1 ∧ c.toNat ≤ 127) ∨ (c.utf8Size = 2 ∧ 127 < c.toNat ∧ c.toNat ≤ 2047) ∨
      (c.utf8Size = 3 ∧ 2047 < c.toNat ∧ c.toNat ≤ 65535) ∨ (c.utf8Size = 4 ∧ 65535 < c.toNat) := by
  unfold Char.utf8Size
  simp only [UInt32.le_iff_toNat_le, Char.toNat_val]
  split
  · left; exact ⟨rfl, by simpa using ‹_›⟩
  · split
    · right; left; exact ⟨rfl, by simp_all, by simpa using ‹_›⟩
    · split
      · right; right; left; exact ⟨rfl, by simp_all, by simpa using ‹_›⟩
      · right; right; right; exact ⟨rfl, by simp_all⟩

theorem beq_eq_decide_toNat (b k : UInt8) : (b == k) = decide (b.toNat = k.toNat) := by
  rw [Bool.eq_iff_iff, beq_iff_eq, decide_eq_true_iff, UInt8.toNat_inj]

/-! The decoder on the bytes of one code point `n`, given by their values: a leading byte that
carries the length tag above the high bits of `n`, then continuation bytes of six bits each. -/

theorem decodeStep_one_byte {b : UInt8} (hb : b.toNat ≤ 127) (rest : List UInt8) :
    decodeStep b rest = (Char.ofNat b.toNat, 0) := by
  have hlt : b < 0x80 := by
    rw [UInt8.lt_iff_toNat_lt]; simp only [UInt8.reduceToNat]; omega
  unfold decodeStep
  rw [if_pos hlt]

theorem decodeStep_two_bytes {b0 b1 : UInt8} {n : Nat} (hlo : 127 < n) (hhi : n ≤ 2047)
    (h0 : b0.toNat = 192 + n / 64) (h1 : b1.toNat = 128 + n % 64) (rest : List UInt8) :
    decodeStep b0 (b1 :: rest) = (Char.ofNat n, 1) := by
  have hnot : ¬ b0 < 0x80 := by
    rw [UInt8.lt_iff_toNat_lt, h0]; simp only [UInt8.reduceToNat]; omega
  have hrange : (0xc2 ≤ b0 && b0 ≤ 0xdf) = true := by
    rw [range_eq_true, h0]; simp only [UInt8.reduceToNat]; omega
  have hlow : (b0 &&& 0x1f).toNat = n / 64 := by
    rw [toNat_and_mask b0 0x1f 5 rfl, h0]; omega
  have hsum : n / 64 * 64 + low6 b1 = n := by
    rw [low6_eq, h1]; omega
  unfold decodeStep
  rw [if_neg hnot, if_pos hrange]
  simp only [contIn_cont b1 _ h1, if_true, hlow, hsum]

theorem second_of_three {b0 b1 : UInt8} {n : Nat} (hlo : 2047 < n) (hsur : n < 0xD800 ∨ 0xDFFF < n)
    (h0 : b0.toNat = 224 + n / 4096) (h1 : b1.toNat = 128 + n / 64 % 64) :
    ∃ lo hi, (if b0 == 0xe0 then ((0xa0 : UInt8), (0xbf : UInt8))
      else if b0 == 0xed then (0x80, 0x9f) else (0x80, 0xbf)) = (lo, hi) ∧
      contIn b1 lo hi = true := by
  rw [beq_eq_decide_toNat, beq_eq_decide_toNat, h0]
  simp only [UInt8.reduceToNat]
  by_cases hz : n / 4096 = 0
  · refine ⟨0xa0, 0xbf, by simp [hz], ?_⟩
    rw [contIn_eq_true, h1]; simp only [UInt8.reduceToNat]; omega
  by_cases hd : n / 4096 = 13
  · refine ⟨0x80, 0x9f, by simp [hd], ?_⟩
    rw [contIn_eq_true, h1]; simp only [UInt8.reduceToNat]; omega
  · exact ⟨0x80, 0xbf, by simp [hz]; omega, contIn_cont b1 _ h1⟩

theorem decodeStep_three_bytes {b0 b1 b2 : UInt8} {n : Nat} (hlo : 2047 < n) (hhi : n ≤ 65535)
    (hsur : n < 0xD800 ∨ 0xDFFF < n) (h0 : b0.toNat = 224 + n / 4096)
    (h1 : b1.toNat = 128 + n / 64 % 64) (h2 : b2.toNat = 128 + n % 64) (rest : List UInt8) :
    decodeStep b0 (b1 :: b2 :: rest) = (Char.ofNat n, 2) := by
  have hnot : ¬ b0 < 0x80 := by
    rw [UInt8.lt_iff_toNat_lt, h0]; simp only [UInt8.reduceToNat]; omega
  have hnot2 : ¬ (0xc2 ≤ b0 && b0 ≤ 0xdf) = true := by
    rw [range_eq_true, h0]; simp only [UInt8.reduceToNat]; omega
  have hrange : (0xe0 ≤ b0 && b0 ≤ 0xef) = true := by
    rw [range_eq_true, h0]; simp only [UInt8.reduceToNat]; omega
  obtain ⟨lo, hi, hbounds, hin⟩ := second_of_three hlo hsur h0 h1
  have hlow : (b0 &&& 0x0f).toNat = n / 4096 := by
    rw [toNat_and_mask b0 0x0f 4 rfl, h0]; omega
  have hsum : n / 4096 * 4096 + low6 b1 * 64 + low6 b2 = n := by
    rw [low6_eq, low6_eq, h1, h2]; omega
  unfold decodeStep
  rw [if_neg hnot, if_neg hnot2, if_pos hrange, hbounds]
  simp only [hin, contIn_cont b2 _ h2, Bool.and_self, if_true, hlow, hsum]

theorem second_of_four {b0 b1 : UInt8} {n : Nat} (hlo : 65535 < n) (hhi : n < 0x110000)
    (h0 : b0.toNat = 240 + n / 262144) (h1 : b1.toNat = 128 + n / 4096 % 64) :
    ∃ lo hi, (if b0 == 0xf0 then ((0x90 : UInt8), (0xbf : UInt8))
      else if b0 == 0xf4 then (0x80, 0x8f) else (0x80, 0xbf)) = (lo, hi) ∧
      contIn b1 lo hi = true := by
  rw [beq_eq_decide_toNat, beq_eq_decide_toNat, h0]
  simp only [UInt8.reduceToNat]
  by_cases hz : n / 262144 = 0
  · refine ⟨0x90, 0xbf, by simp [hz], ?_⟩
    rw [contIn_eq_true, h1]; simp only [UInt8.reduceToNat]; omega
  by_cases hd : n / 262144 = 4
  · refine ⟨0x80, 0x8f, by simp [hd], ?_⟩
    rw [contIn_eq_true, h1]; simp only [UInt8.reduceToNat]; omega
  · exact ⟨0x80, 0xbf, by simp [hz]; omega, contIn_cont b1 _ h1⟩

theorem decodeStep_four_bytes {b0 b1 b2 b3 : UInt8} {n : Nat} (hlo : 65535 < n)
    (hhi : n < 0x110000) (h0 : b0.toNat = 240 + n / 262144) (h1 : b1.toNat = 128 + n / 4096 % 64)
    (h2 : b2.toNat = 128 + n / 64 % 64) (h3 : b3.toNat = 128 + n % 64) (rest : List UInt8) :
    decodeStep b0 (b1 :: b2 :: b3 :: rest) = (Char.ofNat n, 3) := by
  have hnot : ¬ b0 < 0x80 := by
    rw [UInt8.lt_iff_toNat_lt, h0]; simp only [UInt8.reduceToNat]; omega
  have hnot2 : ¬ (0xc2 ≤ b0 && b0 ≤ 0xdf) = true := by
    rw [range_eq_true, h0]; simp only [UInt8.reduceToNat]; omega
  have hnot3 : ¬ (0xe0 ≤ b0 && b0 ≤ 0xef) = true := by
    rw [range_eq_true, h0]; simp only [UInt8.reduceToNat]; omega
  have hrange : (0xf0 ≤ b0 && b0 ≤ 0xf4) = true := by
    rw [range_eq_true, h0]; simp only [UInt8.reduceToNat]; omega
  obtain ⟨lo, hi, hbounds, hin⟩ := second_of_four hlo hhi h0 h1
  have hlow : (b0 &&& 0x07).toNat = n / 262144 := by
    rw [toNat_and_mask b0 0x07 3 rfl, h0]; omega
  have hsum : n / 262144 * 262144 + low6 b1 * 4096 + low6 b2 * 64 + low6 b3 = n := by
    rw [low6_eq, low6_eq, low6_eq, h1, h2, h3]; omega
  unfold decodeStep
  rw [if_neg hnot, if_neg hnot2, if_neg hnot3, if_pos hrange, hbounds]
  simp only [hin, contIn_cont b2 _ h2, contIn_cont b3 _ h3, Bool.and_self, if_true, hlow, hsum]

/-! The bytes of a character's encoding, as the decoder lemmas above take them. -/

theorem toNat_contByte (c : Char) (s : UInt32) (hs : s.toNat < 32) :
    ((c.val >>> s).toUInt8 &&& 0x3f ||| 0x80).toNat = 128 + c.toNat / 2 ^ s.toNat % 64 := by
  rw [toNat_cont, toNat_shifted c s hs, Nat.mod_mod_of_dvd _ (by norm_num)]

theorem toNat_lastByte (c : Char) : (c.val.toUInt8 &&& 0x3f ||| 0x80).toNat = 128 + c.toNat % 64 := by
  rw [toNat_cont, toNat_low, Nat.mod_mod_of_dvd _ (by norm_num)]

theorem decodeStep_utf8EncodeChar (c : Char) (rest : List UInt8) :
    ∃ b tail, String.utf8EncodeChar c = b :: tail ∧ decodeStep b (tail ++ rest) = (c, tail.length) := by
  have hv := toNat_valid c
  rcases utf8Size_bounds c with ⟨h1, hn⟩ | ⟨h2, hlo, hhi⟩ | ⟨h3, hlo, hhi⟩ | ⟨h4, hlo⟩
  · refine ⟨_, [], String.utf8EncodeChar_eq_singleton h1, ?_⟩
    have hb : c.val.toUInt8.toNat = c.toNat := by rw [toNat_low]; omega
    rw [List.nil_append, decodeStep_one_byte (hb ▸ hn), hb, Char.ofNat_toNat, List.length_nil]
  · refine ⟨_, _, String.utf8EncodeChar_eq_cons_cons h2, ?_⟩
    have h0 : ((c.val >>> 6).toUInt8 &&& 0x1f ||| 0xc0).toNat = 192 + c.toNat / 64 := by
      rw [toNat_lead2, toNat_shifted c 6 (by decide)]; simp only [UInt32.reduceToNat]; omega
    rw [List.cons_append, List.nil_append, decodeStep_two_bytes hlo hhi h0 (toNat_lastByte c),
      Char.ofNat_toNat, List.length_singleton]
  · refine ⟨_, _, String.utf8EncodeChar_eq_cons_cons_cons h3, ?_⟩
    have h0 : ((c.val >>> 12).toUInt8 &&& 0x0f ||| 0xe0).toNat = 224 + c.toNat / 4096 := by
      rw [toNat_lead3, toNat_shifted c 12 (by decide)]; simp only [UInt32.reduceToNat]; omega
    rw [List.cons_append, List.cons_append, List.nil_append,
      decodeStep_three_bytes hlo hhi (by omega) h0 (toNat_contByte c 6 (by decide))
        (toNat_lastByte c), Char.ofNat_toNat]
    rfl
  · refine ⟨_, _, String.utf8EncodeChar_eq_cons_cons_cons_cons h4, ?_⟩
    have h0 : ((c.val >>> 18).toUInt8 &&& 0x07 ||| 0xf0).toNat = 240 + c.toNat / 262144 := by
      rw [toNat_lead4, toNat_shifted c 18 (by decide)]; simp only [UInt32.reduceToNat]; omega
    rw [List.cons_append, List.cons_append, List.cons_append, List.nil_append,
      decodeStep_four_bytes hlo (by omega) h0 (toNat_contByte c 12 (by decide))
        (toNat_contByte c 6 (by decide)) (toNat_lastByte c), Char.ofNat_toNat]
    rfl

theorem decodeInto_flatMap (cs acc : List Char) :
    decodeInto (cs.flatMap String.utf8EncodeChar) acc = acc.reverse ++ cs := by
  induction cs generalizing acc with
  | nil => simp [decodeInto]
  | cons c cs ih =>
    obtain ⟨b, tail, henc, hstep⟩ := decodeStep_utf8EncodeChar c (cs.flatMap String.utf8EncodeChar)
    rw [List.flatMap_cons, henc, List.cons_append, decodeInto, hstep]
    simp only [List.drop_left]
    rw [ih]
    simp

/-- The bytes of a string read back as the string. -/
theorem decodeLossy_toUTF8 (s : String) : decodeLossy s.toUTF8.toList = s := by
  rw [decodeLossy, Crypto.byteArray_toList, String.toUTF8_eq_toByteArray, ← String.utf8Encode_toList,
    List.utf8Encode, List.toList_data_toByteArray, decodeInto_flatMap]
  simp

end CrudRoutes.Text
