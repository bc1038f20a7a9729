/-
What sums, differences and shifts of numbers with a sign are.

The upper word of an `_INT64` has a sign, the lower one has none.  What is known of the two words
as one number without a sign is known modulo 2^64 of the number with the sign.

* `TdUint64.toInt` — the number with a sign, in two's complement;
* `muxNegate_toNat`, `abs_toNat` — negatives and absolute values, word by word;
* `int64RShift_toInt` — a shift to the right rounds down;
* `sums_and_shifts_exact` — all sums, differences and shifts, for all numbers and counts.
-/
import AvbSwitch.EmulatedDivision
import AvbSwitch.Int64Arithmetic
import AvbSwitch.TimestampArithmetic

namespace Gptp

variable {v v1 v2 : UInt32} {w n : Int32} {a b : TdUint64} {x y : ℤ}

/-! ### Numbers with a sign -/

/-- The number with a sign that the two words stand for. -/
def TdUint64.toInt (a : TdUint64) : ℤ := a.highPart.toInt32.toInt * 2 ^ 32 + a.lowPart.toNat

theorem toInt_neg_iff : w < 0 ↔ w.toInt < 0 := Int32.lt_iff_toInt_lt

/-- Half of the numbers are negative. -/
theorem TdUint64.toInt_eq :
    a.toInt = if a.toNat < 2 ^ 63 then (a.toNat : ℤ) else a.toNat - 2 ^ 64 := by
  have hlow := a.lowPart.toNat_lt
  have hhigh := a.highPart.toNat_lt
  rw [toInt, toInt32_toInt, toNat, Limbs.value]
  split <;> split <;> omega

theorem TdUint64.le_toInt : -2 ^ 63 ≤ a.toInt := by
  rw [toInt_eq]
  split <;> omega

theorem TdUint64.toInt_lt : a.toInt < 2 ^ 63 := by
  have hlt := a.toNat_lt
  rw [toInt_eq]
  split <;> omega

/-- The two numbers agree modulo 2^64. -/
theorem TdUint64.toInt_emod : a.toInt % 2 ^ 64 = a.toNat := by
  have hlt := a.toNat_lt
  rw [toInt_eq]
  split <;> omega

/-- A number is known from what it is modulo 2^64, if it has room. -/
theorem toInt_of_emod (h : (a.toNat : ℤ) = x % 2 ^ 64) (hle : -2 ^ 63 ≤ x) (hlt : x < 2 ^ 63) :
    a.toInt = x := by
  have hemod := @TdUint64.toInt_emod a
  have hle' := @TdUint64.le_toInt a
  have hlt' := @TdUint64.toInt_lt a
  omega

/-- The sign is that of the upper word. -/
theorem TdUint64.neg_iff : a.neg = true ↔ a.toInt < 0 := by
  have hlow := a.lowPart.toNat_lt
  rw [neg, decide_eq_true_iff, toInt_neg_iff, toInt]
  omega

theorem TdUint64.neg_eq : a.neg = decide (a.toInt < 0) := by
  rw [Bool.eq_iff_iff, decide_eq_true_iff, neg_iff]

/-- A word with a sign, made a number. -/
theorem int32ToInt64_toInt : (int32ToInt64 w).toInt = w.toInt := by
  have hle := w.le_toInt
  have hlt := w.toInt_lt
  have hword := @toUInt32_toNat w
  rw [TdUint64.toInt, int32ToInt64]
  by_cases hneg : w < 0
  · have hneg' := toInt_neg_iff.mp hneg
    rw [if_pos hneg]
    show (-1) * 2 ^ 32 + (w.toUInt32.toNat : ℤ) = _
    omega
  · have hneg' := mt toInt_neg_iff.mpr hneg
    rw [if_neg hneg]
    show 0 * 2 ^ 32 + (w.toUInt32.toNat : ℤ) = _
    omega

/-! ### Negatives and absolute values -/

theorem muxNegate_false : muxNegate false a = a := rfl

/-- The complement, and one more: it is added to the lower word, which is the negative then. -/
theorem muxNegate_true :
    muxNegate true a = ⟨~~~a.highPart + if a.lowPart = 0 then 1 else 0, 0 - a.lowPart⟩ := rfl

/-- **A negative**, word by word: the lower word carries if it is zero. -/
theorem muxNegate_toNat {neg : Bool} :
    ((muxNegate neg a).toNat : ℤ) = (if neg then -(a.toNat : ℤ) else a.toNat) % 2 ^ 64 := by
  have hlow := a.lowPart.toNat_lt
  have hhigh := a.highPart.toNat_lt
  cases neg with
  | false =>
    have hlt := a.toNat_lt
    rw [muxNegate_false, if_neg Bool.false_ne_true]
    omega
  | true =>
    rw [muxNegate_true, if_pos rfl, TdUint64.toNat, TdUint64.toNat, Limbs.value, Limbs.value]
    dsimp only
    rw [UInt32.toNat_add, UInt32.toNat_sub, UInt32.toNat_not, UInt32.toNat_zero,
      show UInt32.size = 2 ^ 32 from rfl]
    by_cases hzero : a.lowPart = 0
    · rw [if_pos hzero, hzero, UInt32.toNat_zero, UInt32.toNat_one]
      omega
    · have hne : a.lowPart.toNat ≠ 0 := fun h => hzero (UInt32.toNat.inj h)
      rw [if_neg hzero, UInt32.toNat_zero]
      omega

/-- **An absolute value**, that of the least number included. -/
theorem abs_toNat : (muxNegate a.neg a).toNat = a.toInt.natAbs := by
  have hmux := @muxNegate_toNat a a.neg
  have hlt := a.toNat_lt
  have hle := @TdUint64.le_toInt a
  have hlt' := @TdUint64.toInt_lt a
  have hemod := @TdUint64.toInt_emod a
  by_cases hneg : a.toInt < 0
  · rw [if_pos (TdUint64.neg_iff.mpr hneg)] at hmux
    omega
  · rw [if_neg (mt TdUint64.neg_iff.mp hneg)] at hmux
    omega

/-! ### Signs -/

/-- The count of a shift is taken as it is. -/
theorem smod_toNat (hn : 0 ≤ n.toInt) (hn' : n.toInt < 32) :
    (n.toBitVec.smod 32).toNat = n.toInt.toNat := by
  have hsmod : (n.toBitVec.smod 32).toInt = n.toInt := by
    rw [BitVec.toInt_smod]
    show n.toInt.fmod 32 = n.toInt
    rw [Int.fmod_eq_emod_of_nonneg _ (by omega), Int.emod_eq_of_lt hn hn']
  have hcond := BitVec.toInt_eq_toNat_cond (n.toBitVec.smod 32)
  have hlt := (n.toBitVec.smod 32).isLt
  rw [hsmod] at hcond
  omega

/-- A shift of a word with a sign. -/
theorem toInt_shiftRight (hn : 0 ≤ n.toInt) (hn' : n.toInt < 32) :
    (w >>> n).toInt = w.toInt / 2 ^ n.toInt.toNat := by
  show (w.toBitVec.sshiftRight' (n.toBitVec.smod 32)).toInt = _
  rw [BitVec.toInt_sshiftRight', smod_toNat hn hn', Int.shiftRight_eq_div_pow]
  rfl

/-- What is left of a word that is shifted by 31 is its sign. -/
theorem toInt_shiftRight_sign : (w >>> 31).toInt = if w.toInt < 0 then -1 else 0 := by
  have hle := w.le_toInt
  have hlt := w.toInt_lt
  rw [toInt_shiftRight (by decide) (by decide)]
  show w.toInt / 2 ^ 31 = _
  split <;> omega

/-- **The sign of a product** is that of the exclusive or. -/
theorem signOf_eq : signOf v1 v2 = (decide (v1.toInt32 < 0) ^^ decide (v2.toInt32 < 0)) := by
  have hmsb : ∀ v : UInt32, v.toBitVec.msb = decide (v.toInt32 < 0) := by
    intro v
    rw [BitVec.msb_eq_toInt]
    exact decide_eq_decide.mpr toInt_neg_iff.symm
  rw [← hmsb, ← hmsb, ← BitVec.msb_xor, BitVec.msb_eq_toInt, signOf]
  refine decide_eq_decide.mpr ?_
  rw [Ne, ← Int32.toInt_inj, toInt_shiftRight_sign]
  show ¬ (if (v1 ^^^ v2).toInt32.toInt < 0 then -1 else 0) = 0 ↔ (v1 ^^^ v2).toInt32.toInt < 0
  split <;> omega

/-- The sign of two numbers, in numbers. -/
theorem signOf_highPart :
    signOf a.highPart b.highPart = (decide (a.toInt < 0) ^^ decide (b.toInt < 0)) := by
  rw [← TdUint64.neg_eq, ← TdUint64.neg_eq, signOf_eq]
  rfl

theorem signOf_toUInt32 :
    signOf a.highPart w.toUInt32 = (decide (a.toInt < 0) ^^ decide (w.toInt < 0)) := by
  have hword : decide (w.toInt < 0) = decide (w < 0) :=
    decide_eq_decide.mpr toInt_neg_iff.symm
  rw [← TdUint64.neg_eq, hword, signOf_eq]
  rfl

/-- The sign that is remembered, as a factor. -/
def productSign (x y : ℤ) : ℤ := if decide (x < 0) ^^ decide (y < 0) then -1 else 1

theorem productSign_eq : productSign x y = 1 ∨ productSign x y = -1 := by
  rw [productSign]
  split
  · exact Or.inr rfl
  · exact Or.inl rfl

/-- An operation that is odd in both numbers, from their absolute values. -/
theorem productSign_of_odd {f : ℤ → ℤ → ℤ} (hleft : ∀ x y, f (-x) y = -f x y)
    (hright : ∀ x y, f x (-y) = -f x y) : productSign x y * f x.natAbs y.natAbs = f x y := by
  rw [productSign]
  by_cases hx : x < 0
  · rw [Int.ofNat_natAbs_of_nonpos hx.le, decide_eq_true hx, hleft]
    by_cases hy : y < 0
    · rw [Int.ofNat_natAbs_of_nonpos hy.le, decide_eq_true hy, if_neg (by decide), hright, neg_neg,
        one_mul]
    · rw [Int.natAbs_of_nonneg (not_lt.mp hy), decide_eq_false hy, if_pos (by decide), neg_mul_neg,
        one_mul]
  · rw [Int.natAbs_of_nonneg (not_lt.mp hx), decide_eq_false hx]
    by_cases hy : y < 0
    · rw [Int.ofNat_natAbs_of_nonpos hy.le, decide_eq_true hy, if_pos (by decide), hright,
        neg_mul_neg, one_mul]
    · rw [Int.natAbs_of_nonneg (not_lt.mp hy), decide_eq_false hy, if_neg (by decide), one_mul]

/-- The sign is put on a number that is known modulo 2^64. -/
theorem muxNegate_sign {m : ℤ} (h : (a.toNat : ℤ) = m % 2 ^ 64) :
    ((muxNegate (decide (x < 0) ^^ decide (y < 0)) a).toNat : ℤ) =
      productSign x y * m % 2 ^ 64 := by
  rw [muxNegate_toNat, productSign]
  split <;> omega

/-! ### Sums and differences -/

/-- Both sums of two numbers. -/
theorem uInt64Add_toNat : (uInt64Add a b).toNat = (a.toNat + b.toNat) % 2 ^ 64 := by
  rw [uInt64Add, TdUint64.toNat, TdUint64.toNat, TdUint64.toNat, Limbs.value, Limbs.value,
    Limbs.value]
  dsimp only
  rw [UInt32.toNat_add, UInt32.toNat_add, UInt32.toNat_add, carry_toNat]
  omega

theorem int64Add_eq : int64Add a b = uInt64Add a b := rfl

/-- With a sign, both numbers are known modulo 2^64. -/
theorem int64Add_toNat : ((int64Add a b).toNat : ℤ) = (a.toInt + b.toInt) % 2 ^ 64 := by
  have ha := @TdUint64.toInt_emod a
  have hb := @TdUint64.toInt_emod b
  have hsum := @uInt64Add_toNat a b
  rw [int64Add_eq]
  omega

theorem int64AddInt32_toNat : ((int64AddInt32 a w).toNat : ℤ) = (a.toInt + w.toInt) % 2 ^ 64 := by
  rw [int64AddInt32, int64Add_toNat, int32ToInt64_toInt]

theorem int64Subtract_toInt : ((int64Subtract a b).toNat : ℤ) = (a.toInt - b.toInt) % 2 ^ 64 := by
  have ha := @TdUint64.toInt_emod a
  have hb := @TdUint64.toInt_emod b
  have hdifference := @int64Subtract_toNat a b
  omega

theorem uint64SubtractUint32_toNat :
    ((uint64SubtractUint32 a v).toNat : ℤ) = ((a.toNat : ℤ) - v.toNat) % 2 ^ 64 := by
  have hhigh := a.highPart.toNat_lt
  have hlow := a.lowPart.toNat_lt
  have hlow' := v.toNat_lt
  rw [uint64SubtractUint32, TdUint64.toNat, TdUint64.toNat, Limbs.value, Limbs.value]
  dsimp only
  rw [UInt32.toNat_sub, UInt32.toNat_sub, borrow_toNat]
  split <;> omega

/-! ### Shifts -/

/-- A count that is not taken. -/
theorem count_and_mask_ne {n : UInt32} (h : 64 ≤ n.toNat) : n &&& 63 ≠ n := by
  intro heq
  have hmask := @count_mask_toNat n
  rw [heq] at hmask
  omega

/-- A count with a sign is masked as the same count without. -/
theorem int32_and_mask : n &&& 63 = n ↔ n.toUInt32 &&& 63 = n.toUInt32 :=
  ⟨congrArg Int32.toUInt32, congrArg UInt32.toInt32⟩

/-- Counts are taken from 0 to 63. -/
theorem count_taken_iff : n &&& 63 = n ↔ 0 ≤ n.toInt ∧ n.toInt ≤ 63 := by
  have hword := @toUInt32_toNat n
  have hle := n.le_toInt
  have hlt := n.toInt_lt
  rw [int32_and_mask]
  by_cases hcount : n.toUInt32.toNat < 64
  · exact iff_of_true (shift_and_mask hcount) (by omega)
  · exact iff_of_false (count_and_mask_ne (by omega)) (by omega)

theorem uint64RShift_eq :
    (uint64RShift a v).toNat = if v.toNat < 64 then a.toNat / 2 ^ v.toNat else 0 := by
  split
  case isTrue hcount => exact uint64RShift_toNat hcount
  case isFalse hcount => rw [uint64RShift, if_pos (count_and_mask_ne (by omega)), zero_toNat]

/-- A count that is taken, as a number. -/
theorem count_toNat (h : 0 ≤ n.toInt) : n.toUInt32.toNat = n.toInt.toNat := by
  have hword := @toUInt32_toNat n
  have hlt := n.toInt_lt
  omega

/-- **A shift to the left** by less than the length of the number is exact modulo 2^64. -/
theorem int64LShift_toNat {n : UInt32} (hn : n.toNat < 64) :
    (int64LShift a n).toNat = a.toNat * 2 ^ n.toNat % 2 ^ 64 := by
  by_cases hlow : n.toNat < 32
  · exact uint64LShift_toNat hlow
  · -- only the low word is left
    have hhigh : 31 < n := UInt32.lt_iff_toNat_lt.mpr (Nat.lt_of_not_le fun h => hlow (by
      have hle : n.toNat ≤ 31 := h
      omega))
    have hback : (n - 32).toNat = n.toNat - 32 :=
      UInt32.toNat_sub_of_le _ _ (UInt32.le_iff_toNat_le.mpr (Nat.le_of_not_lt hlow))
    have hpow : 2 ^ n.toNat = 2 ^ 32 * 2 ^ (n.toNat - 32) := by
      rw [← pow_add, Nat.add_sub_cancel' (Nat.le_of_not_lt hlow)]
    have hword : (a.lowPart <<< (n - 32)).toNat =
        a.lowPart.toNat * 2 ^ (n.toNat - 32) % 2 ^ 32 := by
      rw [shiftLeft_toNat (by omega), hback]
    have hproduct : a.toNat * 2 ^ n.toNat = a.lowPart.toNat * 2 ^ (n.toNat - 32) * 2 ^ 32 +
        a.highPart.toNat * 2 ^ (n.toNat - 32) * 2 ^ 64 := by
      rw [hpow, TdUint64.toNat, Limbs.value]
      ring
    rw [int64LShift, if_neg (not_not.mpr (shift_and_mask hn)), if_pos hhigh, hproduct,
      TdUint64.toNat, Limbs.value, UInt32.toNat_zero, hword]
    omega

theorem int64LShift_eq : (int64LShift a n.toUInt32).toNat =
    if 0 ≤ n.toInt ∧ n.toInt ≤ 63 then a.toNat * 2 ^ n.toInt.toNat % 2 ^ 64 else 0 := by
  split
  case isTrue hcount =>
    have hnat := count_toNat hcount.1
    rw [int64LShift_toNat (by omega), hnat]
  case isFalse hcount =>
    rw [int64LShift, if_pos (mt int32_and_mask.mpr (mt count_taken_iff.mp hcount)), zero_toNat]

/-- The bits that a shift moves from the upper word to the lower one. -/
theorem int64RShift_low (hn : 0 < n.toInt) (hn' : n.toInt < 32) :
    ((a.lowPart >>> n.toUInt32) ||| (a.highPart.toInt32 <<< (32 - n)).toUInt32).toNat =
      a.highPart.toNat % 2 ^ n.toInt.toNat * 2 ^ (32 - n.toInt.toNat) +
        a.lowPart.toNat / 2 ^ n.toInt.toNat := by
  have hcount := count_toNat hn.le
  have hback : (a.highPart.toInt32 <<< (32 - n)).toUInt32 = a.highPart <<< (32 - n.toUInt32) := by
    have hdifference : (32 - n).toInt = 32 - n.toInt := toInt_sub_eq (by
      show -2 ^ 31 ≤ 32 - n.toInt
      omega) (by
      show 32 - n.toInt < 2 ^ 31
      omega)
    refine UInt32.toBitVec_inj.mp ?_
    show a.highPart.toBitVec <<< ((32 - n).toBitVec.smod 32).toNat =
      a.highPart.toBitVec <<< ((32 - n.toUInt32).toNat % 32)
    rw [smod_toNat (by omega) (by omega), back_toNat (by omega)]
    congr 1
    omega
  rw [hback, shifted_words (by omega) (by omega), hcount]

/-- A word that is shifted down, below the sign that is left of it. -/
theorem sign_over_toInt (hn : 0 ≤ n.toInt) (hn' : n.toInt < 32) :
    TdUint64.toInt ⟨(w >>> 31).toUInt32, (w >>> n).toUInt32⟩ = w.toInt / 2 ^ n.toInt.toNat := by
  have hle := w.le_toInt
  have hlt := w.toInt_lt
  have hword := @toUInt32_toNat (w >>> n)
  have hpos : (0 : ℤ) < 2 ^ n.toInt.toNat := by positivity
  have hquotient : (w >>> n).toInt = w.toInt / 2 ^ n.toInt.toNat := toInt_shiftRight hn hn'
  have hle' := (w >>> n).le_toInt
  have hlt' := (w >>> n).toInt_lt
  have hsign : w.toInt / 2 ^ n.toInt.toNat < 0 ↔ w.toInt < 0 :=
    ⟨fun h => lt_of_not_ge fun hge => not_le.mpr h (Int.ediv_nonneg hge hpos.le),
      fun h => Int.ediv_neg_of_neg_of_pos h hpos⟩
  show (w >>> 31).toInt * 2 ^ 32 + ((w >>> n).toUInt32.toNat : ℤ) = _
  rw [toInt_shiftRight_sign, hword]
  rw [hquotient] at hle' hlt' ⊢
  split <;> omega

/-- What a shift moves from the upper part of a number to the lower one. -/
theorem shifted_parts {high low : ℤ} {k j : ℕ} (hword : (2 : ℤ) ^ k * 2 ^ j = 2 ^ 32) :
    high / 2 ^ k * 2 ^ 32 + (high % 2 ^ k * 2 ^ j + low / 2 ^ k) =
      (high * 2 ^ 32 + low) / 2 ^ k := by
  have hsplit := Int.ediv_mul_add_emod high (2 ^ k)
  calc
    high / 2 ^ k * 2 ^ 32 + (high % 2 ^ k * 2 ^ j + low / 2 ^ k)
        = (high / 2 ^ k * 2 ^ k + high % 2 ^ k) * 2 ^ j + low / 2 ^ k := by
      rw [← hword]
      ring
    _ = low / 2 ^ k + high * 2 ^ j := by rw [hsplit, Int.add_comm]
    _ = (low + high * 2 ^ j * 2 ^ k) / 2 ^ k := (Int.add_mul_ediv_right _ _ (by positivity)).symm
    _ = (high * 2 ^ 32 + low) / 2 ^ k := by
      rw [← hword]
      congr 1
      ring

/-- **A shift to the right** of a number with a sign rounds down. -/
theorem int64RShift_toInt (hn : 0 ≤ n.toInt) (hn' : n.toInt ≤ 63) :
    (int64RShift a n).toInt = a.toInt / 2 ^ n.toInt.toNat := by
  have hlow := a.lowPart.toNat_lt
  have hlow' : (a.lowPart.toNat : ℤ) / 2 ^ 32 = 0 :=
    Int.ediv_eq_zero_of_lt (Int.natCast_nonneg _) (by omega)
  rw [int64RShift, if_neg (not_not.mpr (count_taken_iff.mpr ⟨hn, hn'⟩))]
  by_cases hhigh : 31 < n
  · -- the upper word moves down, and leaves its sign
    have hhigh' : 31 < n.toInt := Int32.lt_iff_toInt_lt.mp hhigh
    have hcount : (n - 32).toInt = n.toInt - 32 := toInt_sub_eq (by
      show -2 ^ 31 ≤ n.toInt - 32
      omega) (by
      show n.toInt - 32 < 2 ^ 31
      omega)
    have hpow : (2 : ℤ) ^ n.toInt.toNat = 2 ^ 32 * 2 ^ (n - 32).toInt.toNat := by
      rw [← pow_add]
      congr 1
      omega
    rw [if_pos hhigh, sign_over_toInt (by omega) (by omega), hpow,
      ← Int.ediv_ediv_of_nonneg (by positivity), TdUint64.toInt, Int.add_comm,
      Int.add_mul_ediv_right _ _ (by positivity), hlow', Int.zero_add]
  · have hsmall : n.toInt < 32 := by
      by_contra hnot
      refine hhigh (Int32.lt_iff_toInt_lt.mpr ?_)
      show 31 < n.toInt
      omega
    rw [if_neg hhigh]
    by_cases hzero : n = 0
    · rw [if_neg (not_not.mpr hzero), hzero]
      exact (Int.ediv_one _).symm
    · have hpos : 0 < n.toInt := by
        have hne : n.toInt ≠ 0 := fun h => hzero (Int32.toInt_inj.mp h)
        omega
      -- what the upper word loses is what it is without a sign
      have hbits : a.highPart.toInt32.toInt % 2 ^ n.toInt.toNat =
          (a.highPart.toNat % 2 ^ n.toInt.toNat : ℕ) := by
        have hword : a.highPart.toInt32.toInt % 2 ^ 32 = a.highPart.toNat :=
          (@toUInt32_toNat a.highPart.toInt32).symm
        have hdvd : (2 : ℤ) ^ n.toInt.toNat ∣ 2 ^ 32 := pow_dvd_pow 2 (by omega)
        rw [← Int.emod_emod_of_dvd _ hdvd, hword]
        norm_cast
      have hword : (2 : ℤ) ^ n.toInt.toNat * 2 ^ (32 - n.toInt.toNat) = 2 ^ 32 := by
        rw [← pow_add]
        congr 1
        omega
      rw [if_pos hzero, TdUint64.toInt, TdUint64.toInt, ← shifted_parts hword, hbits]
      dsimp only
      rw [int64RShift_low hpos hsmall, Int32.toInt32_toUInt32, toInt_shiftRight hn hsmall]
      push_cast
      rfl

theorem high_nonneg_iff : 0 ≤ a.highPart.toInt32 ↔ 0 ≤ a.toInt := by
  have hlow := a.lowPart.toNat_lt
  rw [Int32.le_iff_toInt_le, TdUint64.toInt]
  show 0 ≤ a.highPart.toInt32.toInt ↔ _
  omega

/-- What is left after any other count is the sign. -/
theorem int64RShift_eq : (int64RShift a n).toInt =
    if 0 ≤ n.toInt ∧ n.toInt ≤ 63 then a.toInt / 2 ^ n.toInt.toNat
    else if a.toInt < 0 then -1 else 0 := by
  split
  case isTrue hcount => exact int64RShift_toInt hcount.1 hcount.2
  case isFalse hcount =>
    rw [int64RShift, if_pos (mt count_taken_iff.mp hcount)]
    by_cases hneg : a.toInt < 0
    · rw [if_neg (mt high_nonneg_iff.mp (not_le.mpr hneg)), if_pos hneg]
      rfl
    · rw [if_pos (high_nonneg_iff.mpr (not_lt.mp hneg)), if_neg hneg]
      rfl

/-! ### All of them -/

/-- **Sums, differences and shifts are exact** for all numbers and all counts. -/
theorem sums_and_shifts_exact (x y : TdUint64) (v : UInt32) (w n : Int32) :
    ((uInt64Add x y).toNat = (x.toNat + y.toNat) % 2 ^ 64 ∧
      ((int64Add x y).toNat : ℤ) = (x.toInt + y.toInt) % 2 ^ 64 ∧
      ((int64AddInt32 x w).toNat : ℤ) = (x.toInt + w.toInt) % 2 ^ 64 ∧
      (uint64AddUint32 x v).toNat = (x.toNat + v.toNat) % 2 ^ 64 ∧
      ((int64Subtract x y).toNat : ℤ) = (x.toInt - y.toInt) % 2 ^ 64 ∧
      ((uint64SubtractUint32 x v).toNat : ℤ) = ((x.toNat : ℤ) - v.toNat) % 2 ^ 64) ∧
    (uint64RShift x v).toNat = (if v.toNat < 64 then x.toNat / 2 ^ v.toNat else 0) ∧
    (int64RShift x n).toInt =
      (if 0 ≤ n.toInt ∧ n.toInt ≤ 63 then x.toInt / 2 ^ n.toInt.toNat
      else if x.toInt < 0 then -1 else 0) ∧
    ((int64LShift x n.toUInt32).toNat : ℤ) =
      (if 0 ≤ n.toInt ∧ n.toInt ≤ 63 then x.toInt * 2 ^ n.toInt.toNat % 2 ^ 64 else 0) ∧
    (uint64LShift x n.toUInt32).toNat =
      (if 0 ≤ n.toInt ∧ n.toInt ≤ 63 then x.toNat * 2 ^ n.toInt.toNat % 2 ^ 64 else 0) := by
  refine ⟨⟨uInt64Add_toNat, int64Add_toNat, int64AddInt32_toNat, uint64AddUint32_toNat,
    int64Subtract_toInt, uint64SubtractUint32_toNat⟩, uint64RShift_eq, int64RShift_eq, ?_,
    int64LShift_eq⟩
  rw [int64LShift_eq]
  split
  case isTrue hcount =>
    push_cast
    rw [← TdUint64.toInt_emod]
    exact (Int.mod_modEq x.toInt (2 ^ 64)).mul_right _
  case isFalse hcount => rfl

end Gptp
