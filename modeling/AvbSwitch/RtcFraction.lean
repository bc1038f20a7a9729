/-
What `set_rtc_increment` makes of an increment.

An increment has four bits before the point and 27 behind it.  The clock is given the increment, the
nominal one and their ratio with 31 bits behind the point.

* `assembleIncrement_toNat` — mantissa and fraction do not overlap, so that they are added;
* `setRtcIncrement_exact` — no bit is lost, and the ratio is the exact one, rounded down.
-/
import AvbSwitch.FixedPointRatio
import AvbSwitch.RtcServo
import AvbSwitch.SignedArithmetic

namespace Gptp

open FixedPoint

variable {a b : TdUint64} {increment : RtcIncrement} {s : RtcServo}

/-! ### Increments -/

/-- An increment as a number. -/
def RtcIncrement.value (increment : RtcIncrement) : ℕ :=
  increment.mantissa.toNat * 2 ^ 27 + increment.fraction.toNat

/-- Four bits of mantissa, and twenty-seven of fraction. -/
structure RtcIncrement.InRange (increment : RtcIncrement) : Prop where
  mantissa : increment.mantissa.toNat < 16
  fraction : increment.fraction.toNat < 2 ^ 27

theorem RtcIncrement.InRange.value_lt (h : increment.InRange) : increment.value < 2 ^ 31 := by
  have hmantissa := h.mantissa
  have hfraction := h.fraction
  rw [value]
  omega

/-- An increment is known from its number. -/
theorem RtcIncrement.InRange.value_inj {other : RtcIncrement} (h : increment.InRange)
    (hother : other.InRange) : increment.value = other.value ↔ increment = other := by
  constructor
  · intro hvalue
    have hfraction := h.fraction
    have hfraction' := hother.fraction
    rw [value, value] at hvalue
    have hm : increment.mantissa = other.mantissa := UInt32.toNat.inj (by omega)
    have hf : increment.fraction = other.fraction := UInt32.toNat.inj (by omega)
    show RtcIncrement.mk increment.mantissa increment.fraction = RtcIncrement.mk _ _
    rw [hm, hf]
  · intro heq
    rw [heq]

/-- The words of a number do not overlap. -/
theorem toNat_eq_or : a.toNat = a.highPart.toNat <<< 32 ||| a.lowPart.toNat := by
  rw [Nat.shiftLeft_eq, Limbs.or_eq_value a.lowPart.toNat_lt, TdUint64.toNat]

theorem uint64Or_toNat : (uint64Or a b).toNat = a.toNat ||| b.toNat := by
  have hor := @toNat_eq_or (uint64Or a b)
  have ha := @toNat_eq_or a
  have hb := @toNat_eq_or b
  rw [hor, ha, hb]
  show (a.highPart ||| b.highPart).toNat <<< 32 ||| (a.lowPart ||| b.lowPart).toNat = _
  rw [UInt32.toNat_or, UInt32.toNat_or, Nat.shiftLeft_or_distrib, Nat.or_assoc, Nat.or_assoc,
    ← Nat.or_assoc (b.highPart.toNat <<< 32), Nat.or_comm (b.highPart.toNat <<< 32), Nat.or_assoc]

/-- The mantissa is shifted without loss. -/
theorem shiftedMantissa_toNat (h : increment.InRange) :
    (uint64LShift (uint32ToUint64 increment.mantissa) 27).toNat =
      increment.mantissa.toNat * 2 ^ 27 := by
  have hmantissa := h.mantissa
  rw [uint64LShift_toNat (by decide), uint32ToUint64_toNat]
  show increment.mantissa.toNat * 2 ^ 27 % 2 ^ 64 = _
  omega

/-- **Mantissa and fraction**, put together with an or, are added. -/
theorem assembleIncrement_toNat (h : increment.InRange) :
    (assembleIncrement increment).toNat = increment.value := by
  rw [assembleIncrement, uint64Or_toNat, shiftedMantissa_toNat h, uint32ToUint64_toNat,
    Limbs.or_eq_value h.fraction, Limbs.value, RtcIncrement.value]

/-! ### The ratio -/

/-- The increment is shifted without loss. -/
theorem rtcAdj_toNat (h : increment.InRange) :
    (setRtcIncrement s increment).rtcClockVars.rtcAdj.toNat = increment.value * 2 ^ 32 := by
  have hlt := h.value_lt
  show (int64LShift (assembleIncrement increment) 32).toNat = _
  rw [int64LShift_toNat (by decide), assembleIncrement_toNat h]
  show increment.value * 2 ^ 32 % 2 ^ 64 = _
  omega

/-- **The fraction** is the ratio, rounded down. -/
theorem rtcFraction_toNat (h : increment.InRange) (hnom : s.nominalIncrement.InRange)
    (hpos : 0 < s.nominalIncrement.value) :
    (setRtcIncrement s increment).rtcClockVars.rtcFraction.toNat =
      ratio 31 increment.value s.nominalIncrement.value := by
  have hnominal := assembleIncrement_toNat hnom
  have hne : assembleIncrement s.nominalIncrement ≠ .zero := by
    intro hzero
    rw [hzero, zero_toNat] at hnominal
    omega
  show (uint64RShift (uint64DivMod (setRtcIncrement s increment).rtcClockVars.rtcAdj
    (assembleIncrement s.nominalIncrement)).1 1).toNat = _
  rw [uint64RShift_toNat (by decide), (uint64DivMod_toNat hne).1, rtcAdj_toNat h, hnominal]
  exact ratio_succ_half

/-- What `set_rtc_increment` is for. -/
structure SetsExactRatio (s : RtcServo) (increment : RtcIncrement) : Prop where
  /-- Nothing else changes. -/
  frame : setRtcIncrement s increment = { s with
    currentIncrement := increment
    rtcClockVars := (setRtcIncrement s increment).rtcClockVars }
  /-- The shifts of the mantissas lose no bit, nor does that of the increment (`rtcAdj`). -/
  mantissa : (uint64LShift (uint32ToUint64 increment.mantissa) 27).toNat =
    increment.mantissa.toNat * 2 ^ 27
  nominalMantissa : (uint64LShift (uint32ToUint64 s.nominalIncrement.mantissa) 27).toNat =
    s.nominalIncrement.mantissa.toNat * 2 ^ 27
  rtcAdj : (setRtcIncrement s increment).rtcClockVars.rtcAdj.toNat = increment.value * 2 ^ 32
  rtcNominal : (setRtcIncrement s increment).rtcClockVars.rtcNominal.toNat =
    s.nominalIncrement.value
  rtcFraction : (setRtcIncrement s increment).rtcClockVars.rtcFraction.toNat =
    increment.value * 2 ^ 31 / s.nominalIncrement.value
  one_iff : (setRtcIncrement s increment).rtcClockVars.rtcFraction.toNat = 2 ^ 31 ↔
    increment = s.nominalIncrement
  mono : ∀ larger : RtcIncrement, larger.InRange → increment.value ≤ larger.value →
    (setRtcIncrement s increment).rtcClockVars.rtcFraction.toNat ≤
      (setRtcIncrement s larger).rtcClockVars.rtcFraction.toNat

/-- **The fraction of the clock is the exact ratio of the increments**, for all that are in range
and a nominal one that is not zero. -/
theorem setRtcIncrement_exact (s : RtcServo) (increment : RtcIncrement) (h : increment.InRange)
    (hnom : s.nominalIncrement.InRange) (hpos : 0 < s.nominalIncrement.value) :
    SetsExactRatio s increment where
  frame := rfl
  mantissa := shiftedMantissa_toNat h
  nominalMantissa := shiftedMantissa_toNat hnom
  rtcAdj := rtcAdj_toNat h
  rtcNominal := assembleIncrement_toNat hnom
  rtcFraction := rtcFraction_toNat h hnom hpos
  one_iff := by
    rw [rtcFraction_toNat h hnom hpos, ← h.value_inj hnom]
    exact ratio_eq_one_iff hpos hnom.value_lt.le
  mono := by
    intro larger hlarger hle
    rw [rtcFraction_toNat h hnom hpos, rtcFraction_toNat hlarger hnom hpos]
    exact ratio_mono hle

/-- Eight nanoseconds with each tick. -/
def eightNanoseconds : RtcIncrement := ⟨8, 0⟩

theorem eightNanoseconds_inRange : eightNanoseconds.InRange where
  mantissa := by decide
  fraction := by decide

/-- A control loop at rest. -/
def restingServo : RtcServo where
  nominalIncrement := eightNanoseconds
  coefficients := ⟨0, 0, 0⟩
  masterRateRatio := 0
  masterRateRatioValid := false
  integral := .zero
  derivative := 0
  previousOffset := 0
  rtcChangesAllowed := true
  rtcLastOffset := 0
  rtcLastOffsetValid := false
  acquiring := ptpRtcAcquired
  currentIncrement := eightNanoseconds
  rtcClockVars := ⟨.zero, .zero, .zero⟩

/-- Eight nanoseconds and a sixteenth. -/
theorem setRtcIncrement_sixteenth : SetsExactRatio restingServo ⟨8, 0x00800000⟩ :=
  setRtcIncrement_exact restingServo ⟨8, 0x00800000⟩ ⟨by decide, by decide⟩
    eightNanoseconds_inRange (by decide)

end Gptp
