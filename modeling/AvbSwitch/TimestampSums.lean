/-
Sums and absolute values of timestamps.

A timestamp whose signs agree is known from its value, so that sums, differences and absolute values
have one form only.

* `PtpTime.Canonical.eq_of_value` — there is no other timestamp with the same value;
* `timestampSum_spec` — a sum is exact, and its signs agree;
* `timestampAbs_spec` — so is an absolute value, but for the least seconds;
* `timestampArithmetic_exact` — all three.
-/
import AvbSwitch.TimestampArithmetic

namespace Gptp

variable {a b t : PtpTime} {x y : Int32}

/-! ### One form -/

/-- The words of the seconds are known from the seconds. -/
theorem PtpTime.eq_of_seconds (hseconds : a.seconds = b.seconds)
    (hns : a.nanoseconds.toInt = b.nanoseconds.toInt) : a = b := by
  have hlower := a.secondsLower.toNat_lt
  have hlower' := b.secondsLower.toNat_lt
  rw [seconds, seconds] at hseconds
  have hu : a.secondsUpper = b.secondsUpper := Int32.toInt_inj.mp (by omega)
  have hl : a.secondsLower = b.secondsLower := UInt32.toNat.inj (by omega)
  show PtpTime.mk a.secondsUpper a.secondsLower a.nanoseconds = PtpTime.mk _ _ _
  rw [hu, hl, Int32.toInt_inj.mp hns]

/-- **There is one form for a value.** -/
theorem PtpTime.Canonical.eq_of_value (ha : a.Canonical) (hb : b.Canonical)
    (h : a.value = b.value) : a = b := by
  obtain ⟨hseconds, hns⟩ := ha.fields
  obtain ⟨hseconds', hns'⟩ := hb.fields
  rw [h] at hseconds hns
  exact PtpTime.eq_of_seconds (hseconds.trans hseconds'.symm) (hns.trans hns'.symm)

/-! ### Sums -/

/-- The seconds of a sum, before a carry. -/
theorem seconds_add (ha : -2 ^ 62 < a.seconds) (ha' : a.seconds < 2 ^ 62)
    (hb : -2 ^ 62 < b.seconds) (hb' : b.seconds < 2 ^ 62) :
    PtpTime.seconds ⟨a.secondsUpper + b.secondsUpper +
        (if a.secondsLower + b.secondsLower < a.secondsLower then 1 else 0),
      a.secondsLower + b.secondsLower, x⟩ = a.seconds + b.seconds := by
  have hlower := a.secondsLower.toNat_lt
  have hlower' := b.secondsLower.toNat_lt
  rw [PtpTime.seconds] at ha ha' hb hb'
  have hupper : (a.secondsUpper + b.secondsUpper).toInt =
      a.secondsUpper.toInt + b.secondsUpper.toInt := toInt_add_eq (by omega) (by omega)
  rw [PtpTime.seconds, PtpTime.seconds, PtpTime.seconds]
  dsimp only
  by_cases hcarry : a.secondsLower + b.secondsLower < a.secondsLower
  · have hcarry' := UInt32.lt_iff_toNat_lt.mp hcarry
    rw [UInt32.toNat_add] at hcarry'
    have hone : (a.secondsUpper + b.secondsUpper + 1).toInt =
        a.secondsUpper.toInt + b.secondsUpper.toInt + 1 := by
      rw [toInt_add_eq, hupper, toInt_one] <;> rw [hupper, toInt_one] <;> omega
    rw [if_pos hcarry, hone, UInt32.toNat_add]
    omega
  · have hcarry' := mt UInt32.lt_iff_toNat_lt.mpr hcarry
    rw [UInt32.toNat_add] at hcarry'
    rw [if_neg hcarry, Int32.add_zero, hupper, UInt32.toNat_add]
    omega

/-- **A sum of timestamps** is exact, and its signs agree. -/
theorem timestampSum_spec (ha : a.Fraction) (hb : b.Fraction) (hsa : -2 ^ 62 < a.seconds)
    (hsa' : a.seconds < 2 ^ 62) (hsb : -2 ^ 62 < b.seconds) (hsb' : b.seconds < 2 ^ 62) :
    (timestampSum a b).value = a.value + b.value ∧ (timestampSum a b).Canonical := by
  obtain ⟨hna, hna'⟩ := ha
  obtain ⟨hnb, hnb'⟩ := hb
  have hns : (a.nanoseconds + b.nanoseconds).toInt = a.nanoseconds.toInt + b.nanoseconds.toInt :=
    toInt_add_eq (by omega) (by omega)
  have hseconds := @seconds_add a b (a.nanoseconds + b.nanoseconds) hsa hsa' hsb hsb'
  rw [timestampSum]
  refine normalizeTimestamp_carryNanoseconds ?_ ?_ ?_ ?_ ?_
  · rw [PtpTime.value, hseconds, hns, PtpTime.value, PtpTime.value]
    ring
  · rw [hns]
    omega
  · rw [hns]
    omega
  · rw [hseconds]
    omega
  · rw [hseconds]
    omega

/-! ### Absolute values -/

/-- The complement of the seconds is one less than their negative. -/
theorem seconds_complement :
    PtpTime.seconds ⟨~~~t.secondsUpper, ~~~t.secondsLower, x⟩ = -1 - t.seconds := by
  have hlower := t.secondsLower.toNat_lt
  have hle := t.secondsUpper.le_toInt
  have hlt := t.secondsUpper.toInt_lt
  have hupper : (~~~t.secondsUpper).toInt = -t.secondsUpper.toInt - 1 := by
    rw [Int32.toInt_not]
    exact Int.bmod_eq_of_le_mul_two (by omega) (by omega)
  rw [PtpTime.seconds, PtpTime.seconds, hupper, UInt32.toNat_not,
    show UInt32.size = 2 ^ 32 from rfl]
  omega

/-- The seconds of the negative. -/
theorem seconds_neg (h : -2 ^ 63 < t.seconds) :
    PtpTime.seconds ⟨~~~t.secondsUpper + if ~~~t.secondsLower = 0xFFFFFFFF then 1 else 0,
      ~~~t.secondsLower + 1, x⟩ = -t.seconds := by
  have hcomplement := @seconds_complement t x
  have hsucc := @seconds_succ ⟨~~~t.secondsUpper, ~~~t.secondsLower, x⟩ x (by omega)
  dsimp only at hsucc
  rw [hsucc]
  omega

theorem nanoseconds_abs (h : t.Fraction) :
    (if t.nanoseconds < 0 then 0 - t.nanoseconds else t.nanoseconds).toInt =
      |t.nanoseconds.toInt| := by
  obtain ⟨hns, hns'⟩ := h
  by_cases hneg : t.nanoseconds < 0
  · have hneg' : t.nanoseconds.toInt < 0 := Int32.lt_iff_toInt_lt.mp hneg
    have hzero : (0 - t.nanoseconds).toInt = 0 - t.nanoseconds.toInt :=
      toInt_sub_eq (x := 0) (by
        show -2 ^ 31 ≤ 0 - t.nanoseconds.toInt
        omega) (by
        show 0 - t.nanoseconds.toInt < 2 ^ 31
        omega)
    rw [if_pos hneg, hzero, abs_of_neg hneg', zero_sub]
  · have hneg' : ¬ t.nanoseconds.toInt < 0 := fun h => hneg (Int32.lt_iff_toInt_lt.mpr h)
    rw [if_neg hneg, abs_of_nonneg (not_lt.mp hneg')]

/-- The seconds of an absolute value. -/
theorem timestampAbs_seconds (hs : t.seconds ≠ -2 ^ 63) :
    (timestampAbs t).seconds = |t.seconds| := by
  have hlower := t.secondsLower.toNat_lt
  have hle := t.secondsUpper.le_toInt
  have hleast : -2 ^ 63 < t.seconds := by
    rw [PtpTime.seconds] at hs ⊢
    omega
  rw [timestampAbs]
  by_cases hneg : t.secondsUpper < 0
  · rw [if_pos hneg, abs_of_neg (seconds_neg_iff.mpr hneg)]
    exact seconds_neg hleast
  · rw [if_neg hneg, abs_of_nonneg (not_lt.mp (mt seconds_neg_iff.mp hneg))]
    rfl

/-- **An absolute value** is exact, and its signs agree. -/
theorem timestampAbs_spec (h : t.Canonical) (hs : t.seconds ≠ -2 ^ 63) :
    (timestampAbs t).value = |t.value| ∧ (timestampAbs t).Canonical := by
  obtain ⟨hfraction, hpos, hneg⟩ := h
  have hseconds := timestampAbs_seconds hs
  have hns : (timestampAbs t).nanoseconds.toInt = |t.nanoseconds.toInt| :=
    nanoseconds_abs hfraction
  obtain ⟨hlow, hhigh⟩ := hfraction
  have hnonneg := abs_nonneg t.seconds
  have hnonneg' := abs_nonneg t.nanoseconds.toInt
  refine ⟨?_, ⟨⟨?_, ?_⟩, fun _ => ?_, fun hminus => ?_⟩⟩
  · have hsigns : 0 ≤ t.seconds * 10 ^ 9 ∧ 0 ≤ t.nanoseconds.toInt ∨
        t.seconds * 10 ^ 9 ≤ 0 ∧ t.nanoseconds.toInt ≤ 0 := by
      omega
    have hsum := (abs_add_eq_add_abs_iff _ _).mpr hsigns
    have hbillion : |(10 : ℤ) ^ 9| = 10 ^ 9 := abs_of_pos (by norm_num)
    rw [PtpTime.value, hseconds, hns, PtpTime.value, hsum, abs_mul, hbillion]
  · rw [hns]
    omega
  · rw [hns]
    exact abs_lt.mpr ⟨hlow, hhigh⟩
  · rw [hns]
    exact hnonneg'
  · rw [hseconds] at hminus
    omega

/-! ### All three -/

/-- **Timestamp arithmetic is exact, and its results have one form**: the sum and the difference are
the only timestamps with their values whose signs agree, and so is an absolute value. -/
theorem timestampArithmetic_exact (a b : PtpTime) (ha : a.Fraction) (hb : b.Fraction)
    (hsa : -2 ^ 62 < a.seconds) (hsa' : a.seconds < 2 ^ 62) (hsb : -2 ^ 62 < b.seconds)
    (hsb' : b.seconds < 2 ^ 62) (t : PtpTime) :
    (t = timestampSum a b ↔ t.value = a.value + b.value ∧ t.Canonical) ∧
      (t = timestampDifference a b ↔ t.value = a.value - b.value ∧ t.Canonical) ∧
      (t.Canonical → t.seconds ≠ -2 ^ 63 →
        (timestampAbs t).value = |t.value| ∧ (timestampAbs t).Canonical) := by
  obtain ⟨hsum, hsum'⟩ := timestampSum_spec ha hb hsa hsa' hsb hsb'
  obtain ⟨hdifference, hdifference'⟩ := timestampDifference_spec ha hb hsa hsa' hsb hsb'
  refine ⟨⟨?_, fun h => h.2.eq_of_value hsum' (h.1.trans hsum.symm)⟩,
    ⟨?_, fun h => h.2.eq_of_value hdifference' (h.1.trans hdifference.symm)⟩, timestampAbs_spec⟩
  · rintro rfl
    exact ⟨hsum, hsum'⟩
  · rintro rfl
    exact ⟨hdifference, hdifference'⟩

/-- A sum that carries out of the lower word, and a difference of less than a second. -/
theorem timestampArithmetic_carry :
    (⟨1, 0, 500000000⟩ = timestampSum ⟨0, 0xFFFFFFFF, 999999999⟩ ⟨0, 0, 500000001⟩ ↔
        PtpTime.value ⟨1, 0, 500000000⟩ =
          PtpTime.value ⟨0, 0xFFFFFFFF, 999999999⟩ + PtpTime.value ⟨0, 0, 500000001⟩ ∧
        PtpTime.Canonical ⟨1, 0, 500000000⟩) ∧
      (⟨1, 0, 500000000⟩ = timestampDifference ⟨0, 0xFFFFFFFF, 999999999⟩ ⟨0, 0, 500000001⟩ ↔
        PtpTime.value ⟨1, 0, 500000000⟩ =
          PtpTime.value ⟨0, 0xFFFFFFFF, 999999999⟩ - PtpTime.value ⟨0, 0, 500000001⟩ ∧
        PtpTime.Canonical ⟨1, 0, 500000000⟩) ∧
      (PtpTime.Canonical ⟨1, 0, 500000000⟩ → PtpTime.seconds ⟨1, 0, 500000000⟩ ≠ -2 ^ 63 →
        (timestampAbs ⟨1, 0, 500000000⟩).value = |PtpTime.value ⟨1, 0, 500000000⟩| ∧
          (timestampAbs ⟨1, 0, 500000000⟩).Canonical) :=
  timestampArithmetic_exact ⟨0, 0xFFFFFFFF, 999999999⟩ ⟨0, 0, 500000001⟩ ⟨by decide, by decide⟩
    ⟨by decide, by decide⟩ (by decide) (by decide) (by decide) (by decide) ⟨1, 0, 500000000⟩

end Gptp
