/-
What the emulated division of numbers with a sign computes.

`Int64DivMod` divides the absolute values.  The quotient is negative if the signs differ, and the
remainder if the dividend is negative, so that the quotient is cut off towards zero.

* `tdiv_eq`, `tmod_eq` — the truncated quotient and its remainder, from the absolute values;
* `signedDivision_exact` — these are what the three functions return.
-/
import AvbSwitch.SignedArithmetic

namespace Gptp

variable {w : Int32} {a b : TdUint64} {x y : ℤ}

/-! ### Truncated division -/

/-- The truncated quotient has the sign of a product. -/
theorem tdiv_eq : x.tdiv y = productSign x y * (x.natAbs / y.natAbs : ℕ) := by
  rw [Int.ofNat_tdiv]
  exact (productSign_of_odd (fun _ _ => Int.neg_tdiv ..) (fun _ _ => Int.tdiv_neg ..)).symm

/-- The remainder has the sign of the dividend. -/
theorem tmod_eq : x.tmod y =
    if x < 0 then -((x.natAbs % y.natAbs : ℕ) : ℤ) else (x.natAbs % y.natAbs : ℕ) := by
  have habs : x.tmod y = x.tmod y.natAbs := by
    obtain hy | hy := Int.natAbs_eq y
    · rw [← hy]
    · rw [hy, Int.natAbs_neg, Int.natAbs_natCast, Int.tmod_neg]
  rw [habs, Int.ofNat_tmod]
  by_cases hx : x < 0
  · rw [if_pos hx, Int.ofNat_natAbs_of_nonpos hx.le, Int.neg_tmod, neg_neg]
  · rw [if_neg hx, Int.natAbs_of_nonneg (not_lt.mp hx)]

/-! ### The functions -/

theorem abs_ne_zero (hb : b ≠ .zero) : muxNegate b.neg b ≠ .zero := by
  intro hzero
  have habs := @abs_toNat b
  have hemod := @TdUint64.toInt_emod b
  have hpos := toNat_pos hb
  rw [hzero, zero_toNat] at habs
  omega

/-- **The quotient** of two numbers with a sign. -/
theorem int64DivMod_quotient (hb : b ≠ .zero) :
    ((int64DivMod a b).1.toNat : ℤ) = a.toInt.tdiv b.toInt % 2 ^ 64 := by
  obtain ⟨hquotient, -⟩ := uint64DivMod_toNat (x := muxNegate a.neg a) (abs_ne_zero hb)
  rw [abs_toNat, abs_toNat] at hquotient
  have hlt := (uint64DivMod (muxNegate a.neg a) (muxNegate b.neg b)).1.toNat_lt
  have hsigned := muxNegate_sign (x := a.toInt) (y := b.toInt) (m := (a.toInt.natAbs /
    b.toInt.natAbs : ℕ)) (a := (uint64DivMod (muxNegate a.neg a) (muxNegate b.neg b)).1) (by omega)
  rw [tdiv_eq, ← hsigned, ← signOf_highPart]
  rfl

/-- **The remainder.** -/
theorem int64DivMod_remainder (hb : b ≠ .zero) :
    (int64DivMod a b).2.toInt = a.toInt.tmod b.toInt := by
  obtain ⟨-, hrest⟩ := uint64DivMod_toNat (x := muxNegate a.neg a) (abs_ne_zero hb)
  rw [abs_toNat, abs_toNat] at hrest
  have hle := @TdUint64.le_toInt a
  have hlt := @TdUint64.toInt_lt a
  have hmod := Nat.mod_le a.toInt.natAbs b.toInt.natAbs
  have hmux := @muxNegate_toNat (uint64DivMod (muxNegate a.neg a) (muxNegate b.neg b)).2 a.neg
  rw [hrest] at hmux
  rw [tmod_eq]
  by_cases hneg : a.toInt < 0
  · rw [if_pos (TdUint64.neg_iff.mpr hneg)] at hmux
    rw [if_pos hneg]
    exact toInt_of_emod hmux (by omega) (by omega)
  · rw [if_neg (mt TdUint64.neg_iff.mp hneg)] at hmux
    rw [if_neg hneg]
    exact toInt_of_emod hmux (by omega) (by omega)

/-- A divisor of one word is extended by its sign. -/
theorem signExtended_eq : TdUint64.mk (w >>> 31).toUInt32 w.toUInt32 = int32ToInt64 w := by
  have hsign := @toInt_shiftRight_sign w
  rw [int32ToInt64]
  congr 1
  by_cases hneg : w < 0
  · have hshift : w >>> 31 = -1 := Int32.toInt_inj.mp (by
      rw [hsign, if_pos (toInt_neg_iff.mp hneg)]
      rfl)
    rw [if_pos hneg, hshift]
    rfl
  · have hshift : w >>> 31 = 0 := Int32.toInt_inj.mp (by
      rw [hsign, if_neg (mt toInt_neg_iff.mpr hneg)]
      rfl)
    rw [if_neg hneg, hshift]
    rfl

theorem toInt_eq_zero_iff : b.toInt = 0 ↔ b = .zero := by
  have hemod := @TdUint64.toInt_emod b
  constructor
  · intro hzero
    by_contra hne
    have hpos := toNat_pos hne
    omega
  · intro hzero
    rw [hzero]
    rfl

/-- **Signed division truncates towards zero**, for all numbers and every divisor but zero. -/
theorem signedDivision_exact (x y : TdUint64) (w : Int32) :
    (y.toInt ≠ 0 →
      ((int64DivMod x y).1.toNat : ℤ) = x.toInt.tdiv y.toInt % 2 ^ 64 ∧
        (int64DivMod x y).2.toInt = x.toInt - y.toInt * x.toInt.tdiv y.toInt ∧
        (0 ≤ x.toInt → 0 ≤ (int64DivMod x y).2.toInt) ∧
        (x.toInt ≤ 0 → (int64DivMod x y).2.toInt ≤ 0) ∧
        ((int64DividedByInt64 x y).toNat : ℤ) = x.toInt.tdiv y.toInt % 2 ^ 64) ∧
      (w.toInt ≠ 0 →
        ((int64DividedByInt32 x w).toNat : ℤ) = x.toInt.tdiv w.toInt % 2 ^ 64) := by
  refine ⟨fun hy => ?_, fun hw => ?_⟩
  · have hy' : y ≠ .zero := mt toInt_eq_zero_iff.mpr hy
    have hquotient := int64DivMod_quotient (a := x) hy'
    have hsplit := Int.tmod_add_mul_tdiv x.toInt y.toInt
    rw [int64DivMod_remainder hy']
    refine ⟨hquotient, eq_sub_of_add_eq hsplit, fun hx => Int.tmod_nonneg _ hx, fun hx => ?_,
      hquotient⟩
    have hneg := Int.tmod_nonneg y.toInt (neg_nonneg.mpr hx)
    rw [Int.neg_tmod] at hneg
    exact neg_nonneg.mp hneg
  · have hdivisor : int32ToInt64 w ≠ .zero := by
      rw [Ne, ← toInt_eq_zero_iff, int32ToInt64_toInt]
      exact hw
    rw [int64DividedByInt32, signExtended_eq, int64DividedByInt64, int64DivMod_quotient hdivisor,
      int32ToInt64_toInt]

/-- The least number is its own negative. -/
example : int64DividedByInt32 .min (-1) = .min := by decide +kernel

end Gptp
