/-
When the emulated products are exact.

All of them rest on the sum of the two middle products of the halves of two words and of what the
product of the low halves carries.  The sum is kept in one word, so that a carry out of it is lost.

* `longMultiply_toNat` — a product of words is too small by 2^48 if the carry is lost;
* `int64TimesInt64_toNat`, `int64TimesInt32_toNat` — so is the absolute value of one with a sign;
* `products_exact_iff` — each of the products is exact if and only if the middle sum fits.
-/
import AvbSwitch.SignedArithmetic

namespace Gptp

variable {v v1 v2 : UInt32} {w : Int32} {a b : TdUint64} {k m : ℕ} {x y : ℤ}

/-- The middle sum of two words, `a * d + c * b + (b * d >> 16)` of their halves, fits in a word. -/
def MiddleSumFits (k m : ℕ) : Prop := Limbs.middleSum (2 ^ 16) k m < 2 ^ 32

instance : Decidable (MiddleSumFits k m) :=
  inferInstanceAs (Decidable (Limbs.middleSum (2 ^ 16) k m < 2 ^ 32))

theorem lostCarry_eq_zero_iff : lostCarry k m = 0 ↔ MiddleSumFits k m :=
  Nat.div_eq_zero_iff_lt (by decide)

/-- No more than one carry is lost. -/
theorem lostCarry_le_one (hk : k < 2 ^ 32) (hm : m < 2 ^ 32) : lostCarry k m ≤ 1 := by
  have hhalf : ∀ {c d : ℕ}, c < 2 ^ 16 → d < 2 ^ 16 → c * d ≤ (2 ^ 16 - 1) * (2 ^ 16 - 1) :=
    fun hc hd => Nat.mul_le_mul (by omega) (by omega)
  have hfirst : k / 2 ^ 16 * (m % 2 ^ 16) ≤ (2 ^ 16 - 1) * (2 ^ 16 - 1) :=
    hhalf (by omega) (by omega)
  have hsecond : m / 2 ^ 16 * (k % 2 ^ 16) ≤ (2 ^ 16 - 1) * (2 ^ 16 - 1) :=
    hhalf (by omega) (by omega)
  have hlow : k % 2 ^ 16 * (m % 2 ^ 16) ≤ (2 ^ 16 - 1) * (2 ^ 16 - 1) :=
    hhalf (by omega) (by omega)
  rw [lostCarry, Limbs.middleSum]
  omega

/-- An error of either sign shows modulo 2^64, unless nothing is lost. -/
theorem emod_lost_iff {s : ℤ} (hs : s = 1 ∨ s = -1) (hk : k < 2 ^ 32) (hm : m < 2 ^ 32) :
    (x - s * (2 ^ 48 * lostCarry k m)) % 2 ^ 64 = x % 2 ^ 64 ↔ MiddleSumFits k m := by
  have hone := lostCarry_le_one hk hm
  rw [← lostCarry_eq_zero_iff]
  obtain rfl | rfl := hs <;> omega

/-! ### Products without a sign -/

/-- The two halves of the low word. -/
theorem halves_toNat (hv : v = (v2 &&& 0xFFFF) <<< 16) : ((v1 &&& 0xFFFF) ||| v).toNat =
    Limbs.value (2 ^ 16) (v2.toNat % 2 ^ 16) (v1.toNat % 2 ^ 16) := by
  have hlow := @toNat_and_mask v1
  have hhigh := @toNat_and_mask v2
  rw [UInt32.or_comm, hv, or_shifted_toNat (k := 16) rfl (by decide) (by omega) (by omega),
    hlow, hhigh]

/-- **A product of words** is too small by 2^48 if the carry is lost. -/
theorem longMultiply_toNat :
    (longMultiply v1 v2).toNat + 2 ^ 48 * lostCarry v1.toNat v2.toNat =
      v1.toNat * v2.toNat := by
  have hhigh := @longMultiplyHigh_toNat v1 v2
  have hlow : (longMultiply v1 v2).lowPart.toNat = v1.toNat * v2.toNat % 2 ^ 32 := by
    have hhalves := @Limbs.product_low (2 ^ 16) v1.toNat v2.toNat (by decide)
    have hdouble : v1.toNat % 2 ^ 16 * (v2.toNat % 2 ^ 16) % 2 ^ 32 % 2 ^ 16 =
        v1.toNat % 2 ^ 16 * (v2.toNat % 2 ^ 16) % 2 ^ 16 :=
      Nat.mod_mod_of_dvd _ (by decide)
    have hmiddle : Limbs.middleSum (2 ^ 16) v1.toNat v2.toNat % 2 ^ 32 % 2 ^ 16 =
        Limbs.middleSum (2 ^ 16) v1.toNat v2.toNat % 2 ^ 16 :=
      Nat.mod_mod_of_dvd _ (by decide)
    rw [longMultiply]
    dsimp only
    rw [halves_toNat rfl, middleSum_toNat toNat_shiftRight_and_mask toNat_and_mask
      toNat_shiftRight_and_mask toNat_and_mask, UInt32.toNat_mul, toNat_and_mask, toNat_and_mask,
      hdouble, hmiddle]
    exact hhalves.symm
  rw [TdUint64.toNat, Limbs.value, hlow]
  show (longMultiplyHigh v1 v2).toNat * 2 ^ 32 + _ + _ = _
  omega

/-- **A product of numbers** is too small by 2^48 modulo 2^64 then. -/
theorem uint64TimesUint64_toNat :
    ((uint64TimesUint64 a b).toNat : ℤ) =
      ((a.toNat : ℤ) * b.toNat - 2 ^ 48 * lostCarry a.lowPart.toNat b.lowPart.toNat) % 2 ^ 64 := by
  have hhigh := @longMultiplyHigh_toNat a.lowPart b.lowPart
  have hsplit : (a.toNat : ℤ) * b.toNat = (a.highPart.toNat * b.highPart.toNat : ℕ) * 2 ^ 64 +
      ((a.lowPart.toNat * b.highPart.toNat : ℕ) + (a.highPart.toNat * b.lowPart.toNat : ℕ)) *
        2 ^ 32 + (a.lowPart.toNat * b.lowPart.toNat : ℕ) := by
    rw [TdUint64.toNat, TdUint64.toNat, Limbs.value, Limbs.value]
    push_cast
    ring
  rw [uint64TimesUint64, TdUint64.toNat, Limbs.value]
  dsimp only
  rw [UInt32.toNat_add, UInt32.toNat_add, UInt32.toNat_mul, UInt32.toNat_mul, UInt32.toNat_mul,
    hsplit]
  omega

/-! ### Products with a sign -/

/-- The absolute values give the product back. -/
theorem productSign_mul : productSign x y * (x.natAbs * y.natAbs) = x * y :=
  productSign_of_odd (f := (· * ·)) neg_mul mul_neg

/-- The product of the absolute values, less what is lost, and with the sign again. -/
theorem muxNegate_product {e : ℤ}
    (h : (a.toNat : ℤ) = ((x.natAbs : ℤ) * y.natAbs - e) % 2 ^ 64) :
    ((muxNegate (decide (x < 0) ^^ decide (y < 0)) a).toNat : ℤ) =
      (x * y - productSign x y * e) % 2 ^ 64 := by
  rw [muxNegate_sign h, mul_sub, productSign_mul]

/-- **A product with a sign**: its absolute value is too small by 2^48. -/
theorem int64TimesInt64_toNat : ((int64TimesInt64 a b).toNat : ℤ) =
    (a.toInt * b.toInt - productSign a.toInt b.toInt *
      (2 ^ 48 * lostCarry (a.toInt.natAbs % 2 ^ 32) (b.toInt.natAbs % 2 ^ 32))) % 2 ^ 64 := by
  have hproduct := @uint64TimesUint64_toNat (muxNegate a.neg a) (muxNegate b.neg b)
  rw [TdUint64.lowPart_toNat, TdUint64.lowPart_toNat, abs_toNat, abs_toNat] at hproduct
  rw [← muxNegate_product hproduct, ← signOf_highPart]
  rfl

/-- It is exact modulo 2^64 if and only if nothing is lost. -/
theorem int64TimesInt64_exact_iff : ((int64TimesInt64 a b).toNat : ℤ) = a.toInt * b.toInt % 2 ^ 64 ↔
    MiddleSumFits (a.toInt.natAbs % 2 ^ 32) (b.toInt.natAbs % 2 ^ 32) := by
  rw [int64TimesInt64_toNat]
  exact emod_lost_iff productSign_eq (Nat.mod_lt _ (by decide)) (Nat.mod_lt _ (by decide))

theorem iabs_toNat : (iabs w).toUInt32.toNat = w.toInt.natAbs := by
  have hword := @toUInt32_toNat w
  have hle := w.le_toInt
  have hlt := w.toInt_lt
  rw [iabs]
  by_cases hneg : w < 0
  · have hneg' := toInt_neg_iff.mp hneg
    rw [if_pos hneg]
    show (0 - w.toUInt32).toNat = _
    rw [UInt32.toNat_sub, UInt32.toNat_zero]
    omega
  · have hneg' := mt toInt_neg_iff.mpr hneg
    rw [if_neg hneg]
    omega

/-- The same with a word. -/
theorem int64TimesInt32_toNat : ((int64TimesInt32 a w).toNat : ℤ) =
    (a.toInt * w.toInt - productSign a.toInt w.toInt *
      (2 ^ 48 * lostCarry (a.toInt.natAbs % 2 ^ 32) w.toInt.natAbs)) % 2 ^ 64 := by
  have hproduct := @uint64TimesUint32_toNat (iabs w).toUInt32 (muxNegate a.neg a)
  rw [TdUint64.lowPart_toNat, abs_toNat, iabs_toNat] at hproduct
  rw [← muxNegate_product hproduct, ← signOf_toUInt32]
  rfl

/-! ### When they are exact -/

/-- **Each of the products is exact** if and only if the middle sum of the low words fits; for
those with a sign these are the low words of the absolute values. -/
theorem products_exact_iff (v1 v2 : UInt32) (w : Int32) (x y : TdUint64) :
    ((longMultiply v1 v2).toNat = v1.toNat * v2.toNat ↔ MiddleSumFits v1.toNat v2.toNat) ∧
      ((longMultiplyHigh v1 v2).toNat = v1.toNat * v2.toNat / 2 ^ 32 ↔
        MiddleSumFits v1.toNat v2.toNat) ∧
      ((uint64TimesUint64 x y).toNat = x.toNat * y.toNat % 2 ^ 64 ↔
        MiddleSumFits (x.toNat % 2 ^ 32) (y.toNat % 2 ^ 32)) ∧
      ((uint64TimesUint32 x v2).toNat = x.toNat * v2.toNat % 2 ^ 64 ↔
        MiddleSumFits (x.toNat % 2 ^ 32) v2.toNat) ∧
      (((int64TimesInt64 x y).toNat : ℤ) = x.toInt * y.toInt % 2 ^ 64 ↔
        MiddleSumFits (x.toInt.natAbs % 2 ^ 32) (y.toInt.natAbs % 2 ^ 32)) ∧
      (((int64TimesInt32 x w).toNat : ℤ) = x.toInt * w.toInt % 2 ^ 64 ↔
        MiddleSumFits (x.toInt.natAbs % 2 ^ 32) w.toInt.natAbs) := by
  have hlow : ∀ k : ℕ, k % 2 ^ 32 < 2 ^ 32 := fun k => Nat.mod_lt _ (by decide)
  have hwords := @longMultiply_toNat v1 v2
  have hhigh := @longMultiplyHigh_toNat v1 v2
  have hint : w.toInt.natAbs < 2 ^ 32 := by
    have hle := w.le_toInt
    have hlt := w.toInt_lt
    omega
  refine ⟨?_, ?_, ?_, ?_, int64TimesInt64_exact_iff, ?_⟩
  · rw [← lostCarry_eq_zero_iff]
    omega
  · rw [← lostCarry_eq_zero_iff]
    omega
  · rw [← emod_lost_iff (Or.inl rfl) (hlow _) (hlow _), one_mul, ← TdUint64.lowPart_toNat,
      ← TdUint64.lowPart_toNat, ← uint64TimesUint64_toNat]
    norm_cast
  · rw [← emod_lost_iff (Or.inl rfl) (hlow _) v2.toNat_lt, one_mul, ← TdUint64.lowPart_toNat,
      ← uint64TimesUint32_toNat]
    norm_cast
  · rw [int64TimesInt32_toNat]
    exact emod_lost_iff productSign_eq (hlow _) hint

/-- The largest word, as a number. -/
def allOnes : TdUint64 := uint32ToUint64 0xFFFFFFFF

/-- **A carry is lost** in the product of the largest word with itself, by all of them; with a
factor that has a sign it is lost in that with the largest `int`. -/
theorem products_lost :
    (longMultiply 0xFFFFFFFF 0xFFFFFFFF).toNat ≠
        (0xFFFFFFFF : UInt32).toNat * (0xFFFFFFFF : UInt32).toNat ∧
      (longMultiplyHigh 0xFFFFFFFF 0xFFFFFFFF).toNat ≠
        (0xFFFFFFFF : UInt32).toNat * (0xFFFFFFFF : UInt32).toNat / 2 ^ 32 ∧
      (uint64TimesUint64 allOnes allOnes).toNat ≠ allOnes.toNat * allOnes.toNat % 2 ^ 64 ∧
      (uint64TimesUint32 allOnes 0xFFFFFFFF).toNat ≠
        allOnes.toNat * (0xFFFFFFFF : UInt32).toNat % 2 ^ 64 ∧
      ((int64TimesInt64 allOnes allOnes).toNat : ℤ) ≠ allOnes.toInt * allOnes.toInt % 2 ^ 64 ∧
      ((int64TimesInt32 allOnes 0x7FFFFFFF).toNat : ℤ) ≠
        allOnes.toInt * (0x7FFFFFFF : Int32).toInt % 2 ^ 64 := by
  decide

end Gptp
