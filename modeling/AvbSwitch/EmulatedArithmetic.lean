/-
What the emulated 64-bit arithmetic computes.

The two words of a number are its limbs.  Sums, differences and shifts are exact modulo 2^64.
Products are not: `long_multiply_high` adds up its middle products in one word, and the carry
out of that word is lost.

* `longMultiplyHigh_toNat` — the high word is too small by 2^16 if the middle sum goes over;
* `uint64TimesUint32_toNat` — a product is too small by 2^48 then.
-/
import AvbSwitch.Limbs
import AvbSwitch.PtpArithmetic

namespace Gptp

variable {v1 v2 y n w : UInt32} {a b : TdUint64}

/-- The number that the two words stand for. -/
def TdUint64.toNat (a : TdUint64) : ℕ := Limbs.value (2 ^ 32) a.highPart.toNat a.lowPart.toNat

theorem TdUint64.lowPart_toNat (a : TdUint64) : a.lowPart.toNat = a.toNat % 2 ^ 32 :=
  (Limbs.value_mod_low a.lowPart.toNat_lt).symm

theorem uint32ToUint64_toNat : (uint32ToUint64 w).toNat = w.toNat := by
  show 0 * 2 ^ 32 + w.toNat = w.toNat
  rw [Nat.zero_mul, Nat.zero_add]

/-- A number with a sign, taken as one without. -/
theorem toUInt32_toNat {x : Int32} : (x.toUInt32.toNat : ℤ) = x.toInt % 2 ^ 32 := by
  have hlt := x.toUInt32.toNat_lt
  have hmod : x.toInt = (x.toUInt32.toNat : ℤ).bmod (2 ^ 32) := BitVec.toInt_eq_toNat_bmod _
  rw [hmod]
  exact (Int.bmod_emod.trans (Int.emod_eq_of_lt (by omega) (by omega))).symm

/-! ### Sums and differences -/

theorem carry_toNat : (carry v1 v2).toNat = (v1.toNat + v2.toNat) / 2 ^ 32 := by
  have hcarry := Limbs.carry_eq v1.toNat_lt v2.toNat_lt
  rw [← hcarry, ← UInt32.toNat_add, carry]
  simp only [UInt32.lt_iff_toNat_lt]
  split <;> rfl

theorem uint64AddUint32_toNat : (uint64AddUint32 a y).toNat = (a.toNat + y.toNat) % 2 ^ 64 := by
  rw [uint64AddUint32, TdUint64.toNat]
  dsimp only
  rw [UInt32.toNat_add, UInt32.toNat_add, carry_toNat]
  exact Limbs.value_add (by decide)

theorem borrow_toNat : (borrow v1 v2).toNat = if v1.toNat < v2.toNat then 1 else 0 := by
  rw [borrow]
  simp only [UInt32.lt_iff_toNat_lt]
  split <;> rfl

theorem int64Subtract_toNat :
    ((int64Subtract a b).toNat : ℤ) = ((a.toNat : ℤ) - b.toNat) % 2 ^ 64 := by
  have hhigh := a.highPart.toNat_lt
  have hlow := a.lowPart.toNat_lt
  have hhigh' := b.highPart.toNat_lt
  have hlow' := b.lowPart.toNat_lt
  rw [int64Subtract, TdUint64.toNat, TdUint64.toNat, TdUint64.toNat, Limbs.value, Limbs.value,
    Limbs.value]
  dsimp only
  rw [UInt32.toNat_sub, UInt32.toNat_sub, UInt32.toNat_add, borrow_toNat]
  split <;> omega

/-! ### Shifts -/

/-- The length of a word less the shift. -/
theorem back_toNat (hn : n.toNat ≤ 32) : (32 - n).toNat = 32 - n.toNat :=
  UInt32.toNat_sub_of_le _ _ (UInt32.le_iff_toNat_le.mpr hn)

theorem two_pow_back (hn : n.toNat ≤ 32) : 2 ^ n.toNat * 2 ^ (32 - n.toNat) = 2 ^ 32 := by
  rw [← pow_add, Nat.add_sub_cancel' hn]

theorem shiftRight_toNat (hn : n.toNat < 32) : (w >>> n).toNat = w.toNat / 2 ^ n.toNat := by
  rw [UInt32.toNat_shiftRight, Nat.mod_eq_of_lt hn, Nat.shiftRight_eq_div_pow]

theorem shiftLeft_toNat (hn : n.toNat < 32) :
    (w <<< n).toNat = w.toNat * 2 ^ n.toNat % 2 ^ 32 := by
  rw [UInt32.toNat_shiftLeft, Nat.mod_eq_of_lt hn, Nat.shiftLeft_eq]

/-- A mask of the low bits leaves the remainder. -/
theorem and_mask_toNat {mask : UInt32} {k : ℕ} (hmask : mask.toNat = 2 ^ k - 1) :
    (w &&& mask).toNat = w.toNat % 2 ^ k := by
  rw [UInt32.toNat_and, hmask, Nat.and_two_pow_sub_one_eq_mod]

/-- The mask of the counts. -/
theorem count_mask_toNat : (n &&& 63).toNat = n.toNat % 2 ^ 6 := and_mask_toNat rfl

/-- Shifts are taken if they are less than the length of a number. -/
theorem shift_and_mask (hn : n.toNat < 64) : n &&& 63 = n :=
  UInt32.toNat.inj (count_mask_toNat.trans (Nat.mod_eq_of_lt hn))

/-- Two parts of a word, put together. -/
theorem or_shifted_toNat {k : ℕ} (hn : n.toNat = k) (hk : k < 32) (hlow : v1.toNat < 2 ^ k)
    (hroom : v2.toNat * 2 ^ k < 2 ^ 32) :
    ((v2 <<< n) ||| v1).toNat = Limbs.value (2 ^ k) v2.toNat v1.toNat := by
  subst hn
  rw [UInt32.toNat_or, shiftLeft_toNat hk, Nat.mod_eq_of_lt hroom, Limbs.or_eq_value hlow]

/-- The bits that move from the high word to the low one. -/
theorem shifted_words (hn : n.toNat < 32) (hpos : 0 < n.toNat) :
    ((v1 >>> n) ||| (v2 <<< (32 - n))).toNat =
      v2.toNat % 2 ^ n.toNat * 2 ^ (32 - n.toNat) + v1.toNat / 2 ^ n.toNat := by
  have hword := two_pow_back hn.le
  have hlow : v1.toNat / 2 ^ n.toNat < 2 ^ (32 - n.toNat) := by
    rw [Nat.div_lt_iff_lt_mul (Nat.two_pow_pos _), Nat.mul_comm, hword]
    exact v1.toNat_lt
  have hleft : (v2 <<< (32 - n)).toNat = v2.toNat % 2 ^ n.toNat * 2 ^ (32 - n.toNat) := by
    have hback := back_toNat hn.le
    rw [shiftLeft_toNat (by omega), hback, ← hword, Nat.mul_mod_mul_right]
  rw [UInt32.toNat_or, shiftRight_toNat hn, hleft, Nat.or_comm, Limbs.or_eq_value hlow, Limbs.value]

theorem rshift_high (hn : 31 < n.toNat) (hlt : n.toNat < 64) :
    (v1 >>> (n - 32)).toNat = v1.toNat / 2 ^ (n.toNat - 32) := by
  have hback : (n - 32).toNat = n.toNat - 32 :=
    UInt32.toNat_sub_of_le _ _ (UInt32.le_iff_toNat_le.mpr hn)
  rw [shiftRight_toNat (by omega), hback]

/-- **A shift to the right** by less than the length of the number. -/
theorem uint64RShift_toNat (hn : n.toNat < 64) :
    (uint64RShift a n).toNat = a.toNat / 2 ^ n.toNat := by
  rw [uint64RShift, if_neg (not_not.mpr (shift_and_mask hn))]
  by_cases hhigh : 31 < n
  · -- only the high word is left
    have hhigh' : 31 < n.toNat := UInt32.lt_iff_toNat_lt.mp hhigh
    have hpow : 2 ^ n.toNat = 2 ^ 32 * 2 ^ (n.toNat - 32) := by
      rw [← pow_add, Nat.add_sub_cancel' hhigh']
    rw [if_pos hhigh, hpow, ← Nat.div_div_eq_div_mul, TdUint64.toNat, TdUint64.toNat,
      Limbs.value_div a.lowPart.toNat_lt, ← rshift_high hhigh' hn, Limbs.value]
    show 0 * 2 ^ 32 + _ = _
    rw [Nat.zero_mul, Nat.zero_add]
  · rw [if_neg hhigh]
    have hlow : n.toNat < 32 := Nat.lt_of_not_le fun h => hhigh (UInt32.lt_iff_toNat_lt.mpr h)
    by_cases hzero : n = 0
    · rw [if_neg (not_not.mpr hzero), hzero]
      exact (Nat.div_one _).symm
    · have hpos : 0 < n.toNat := Nat.pos_of_ne_zero fun h => hzero (UInt32.toNat.inj h)
      have hword := two_pow_back hlow.le
      have hsplit : a.toNat = (a.highPart.toNat / 2 ^ n.toNat * 2 ^ 32 +
          a.highPart.toNat % 2 ^ n.toNat * 2 ^ (32 - n.toNat)) * 2 ^ n.toNat + a.lowPart.toNat := by
        calc
          a.toNat = a.highPart.toNat * 2 ^ 32 + a.lowPart.toNat := rfl
          _ = (a.highPart.toNat / 2 ^ n.toNat * 2 ^ n.toNat + a.highPart.toNat % 2 ^ n.toNat) *
              2 ^ 32 + a.lowPart.toNat := by rw [Nat.div_add_mod']
          _ = _ := by
            rw [← hword]
            ring
      rw [if_pos hzero, TdUint64.toNat, Limbs.value, shifted_words hlow hpos, shiftRight_toNat hlow,
        hsplit, Nat.add_comm (_ * 2 ^ n.toNat), Nat.add_mul_div_right _ _ (Nat.two_pow_pos _)]
      omega

/-! ### Products -/

/-- The carry that `long_multiply_high` loses. -/
def lostCarry (v1 v2 : ℕ) : ℕ := Limbs.middleSum (2 ^ 16) v1 v2 / 2 ^ 32

theorem toNat_and_mask : (w &&& 0xFFFF).toNat = w.toNat % 2 ^ 16 := and_mask_toNat rfl

theorem toNat_shiftRight_and_mask : ((w >>> 16) &&& 0xFFFF).toNat = w.toNat / 2 ^ 16 := by
  have hlt := w.toNat_lt
  rw [toNat_and_mask, UInt32.toNat_shiftRight, Nat.shiftRight_eq_div_pow]
  show w.toNat / 2 ^ 16 % 2 ^ 16 = _
  exact Nat.mod_eq_of_lt (by omega)

/-- The middle sum is kept in one word. -/
theorem middleSum_toNat {a b c d : UInt32} (ha : a.toNat = v1.toNat / 2 ^ 16)
    (hb : b.toNat = v1.toNat % 2 ^ 16) (hc : c.toNat = v2.toNat / 2 ^ 16)
    (hd : d.toNat = v2.toNat % 2 ^ 16) :
    ((((b * d) >>> 16) &&& 0xFFFF) + (a * d + c * b)).toNat =
      Limbs.middleSum (2 ^ 16) v1.toNat v2.toNat % 2 ^ 32 := by
  have hlow : v1.toNat % 2 ^ 16 * (v2.toNat % 2 ^ 16) < 2 ^ 32 := by
    have hle : v1.toNat % 2 ^ 16 * (v2.toNat % 2 ^ 16) ≤ (2 ^ 16 - 1) * (2 ^ 16 - 1) :=
      Nat.mul_le_mul (by omega) (by omega)
    omega
  rw [Limbs.middleSum, UInt32.toNat_add, toNat_shiftRight_and_mask, UInt32.toNat_add,
    UInt32.toNat_mul, UInt32.toNat_mul, UInt32.toNat_mul, ha, hb, hc, hd, Nat.mod_eq_of_lt hlow]
  omega

/-- **The high word of a product** is too small by 2^16 if the middle sum goes over. -/
theorem longMultiplyHigh_toNat :
    (longMultiplyHigh v1 v2).toNat + 2 ^ 16 * lostCarry v1.toNat v2.toNat =
      v1.toNat * v2.toNat / 2 ^ 32 := by
  have hproduct := @Limbs.product_high_wrapped (2 ^ 16) v1.toNat v2.toNat (by decide)
  have hlt : v1.toNat * v2.toNat / 2 ^ 32 < 2 ^ 32 := by
    rw [Nat.div_lt_iff_lt_mul (by decide)]
    exact Nat.mul_lt_mul'' v1.toNat_lt v2.toNat_lt
  rw [longMultiplyHigh, UInt32.toNat_add, toNat_shiftRight_and_mask,
    middleSum_toNat toNat_shiftRight_and_mask toNat_and_mask toNat_shiftRight_and_mask
      toNat_and_mask, UInt32.toNat_mul, toNat_shiftRight_and_mask, toNat_shiftRight_and_mask,
    lostCarry]
  -- the high word itself does not go over, so that the sum is that of the products of halves
  omega

/-- **A product modulo 2^64** is too small by 2^48 if the middle sum of the low word goes over. -/
theorem uint64TimesUint32_toNat :
    ((uint64TimesUint32 a y).toNat : ℤ) =
      ((a.toNat : ℤ) * y.toNat - 2 ^ 48 * lostCarry a.lowPart.toNat y.toNat) % 2 ^ 64 := by
  have hhigh := @longMultiplyHigh_toNat a.lowPart y
  have hsplit : (a.toNat : ℤ) * y.toNat = (a.highPart.toNat * y.toNat : ℕ) * 2 ^ 32 +
      (a.lowPart.toNat * y.toNat : ℕ) := by
    rw [TdUint64.toNat, Limbs.value]
    push_cast
    ring
  rw [uint64TimesUint32, TdUint64.toNat, Limbs.value]
  dsimp only
  rw [UInt32.toNat_add, UInt32.toNat_mul, UInt32.toNat_mul, hsplit]
  omega

end Gptp
