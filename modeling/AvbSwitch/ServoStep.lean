/-
How far one step of the control loop moves the increment.

The accumulator may wrap around in its products and sums.  Whatever it is, it is clamped to an
eighth of a nanosecond before it is added to the nominal increment, which has room for that.

* `adjustmentOf_toInt` — the correction is the accumulator, clamped;
* `correctIncrement_value` — the increment that is written differs by it from the nominal one;
* `servoStep_bounded` — in particular while the clock is being acquired.
-/
import AvbSwitch.EmulatedProducts
import AvbSwitch.PdelayTermination
import AvbSwitch.RtcFraction

namespace Gptp

variable {n : ℕ} {a b : TdUint64} {w : Int32} {v : UInt32} {s : RtcServo} {locals : ServoLocals}
  {increment : RtcIncrement} {t : ServoSystem n} {p : Fin n}

/-! ### Clamping -/

/-- A number within `m` of zero. -/
def clamp (m x : ℤ) : ℤ := max (-m) (min m x)

theorem abs_clamp_le {m x : ℤ} (hm : 0 ≤ m) : |clamp m x| ≤ m := by
  rw [clamp, abs_le]
  exact ⟨le_max_left _ _, max_le (neg_le_self hm) (min_le_left _ _)⟩

/-- The comparison of numbers with a sign. -/
theorem int64Less_iff : int64Less a b = true ↔ a.toInt < b.toInt := by
  have hlow := a.lowPart.toNat_lt
  have hlow' := b.lowPart.toNat_lt
  have hhigh : a.highPart = b.highPart ↔ a.highPart.toInt32.toInt = b.highPart.toInt32.toInt :=
    ⟨fun h => congrArg (fun v : UInt32 => v.toInt32.toInt) h,
      fun h => congrArg Int32.toUInt32 (Int32.toInt_inj.mp h)⟩
  rw [int64Less, decide_eq_true_iff, Int32.lt_iff_toInt_lt, UInt32.lt_iff_toNat_lt, hhigh,
    TdUint64.toInt, TdUint64.toInt]
  omega

/-- The low word of a number that fits in it. -/
theorem int64ToInt32_toInt (h : -2 ^ 31 ≤ a.toInt) (h' : a.toInt < 2 ^ 31) :
    (int64ToInt32 a).toInt = a.toInt := by
  have hemod := @TdUint64.toInt_emod a
  have hlow := a.lowPart.toNat_lt
  rw [int64ToInt32, toInt32_toInt, TdUint64.lowPart_toNat]
  split <;> omega

theorem incrementDeltaMax_toInt : incrementDeltaMax.toInt = 2 ^ 24 := by decide

theorem incrementDeltaMin_toInt : incrementDeltaMin.toInt = -2 ^ 24 := by decide

/-- **The correction** is the accumulator, clamped. -/
theorem adjustmentOf_toInt : (adjustmentOf a).toInt = clamp (2 ^ 24) a.toInt := by
  have hmax : (int32ToInt64 incrementDeltaMax).toInt = 2 ^ 24 :=
    int32ToInt64_toInt.trans incrementDeltaMax_toInt
  have hmin : (int32ToInt64 incrementDeltaMin).toInt = -2 ^ 24 :=
    int32ToInt64_toInt.trans incrementDeltaMin_toInt
  rw [adjustmentOf, clamp]
  by_cases hover : int64Less (int32ToInt64 incrementDeltaMax) a = true
  · have hlt := int64Less_iff.mp hover
    rw [hmax] at hlt
    rw [if_pos hover, incrementDeltaMax_toInt]
    omega
  · have hle := mt int64Less_iff.mpr hover
    rw [hmax] at hle
    rw [if_neg hover]
    by_cases hunder : int64Less a (int32ToInt64 incrementDeltaMin) = true
    · have hlt := int64Less_iff.mp hunder
      rw [hmin] at hlt
      rw [if_pos hunder, incrementDeltaMin_toInt]
      omega
    · have hge := mt int64Less_iff.mpr hunder
      rw [hmin] at hge
      rw [if_neg hunder, int64ToInt32_toInt (by omega) (by omega)]
      omega

/-! ### The increment that is written -/

theorem and_mantissaMask_toNat : (v &&& rtcMantissaMask).toNat = v.toNat % 2 ^ 4 :=
  and_mask_toNat rfl

theorem and_fractionMask_toNat : (v &&& rtcFractionMask).toNat = v.toNat % 2 ^ 27 :=
  and_mask_toNat rfl

/-- A word taken apart, and put together again. -/
theorem splitIncrement_value (h : v.toNat < 2 ^ 31) : (splitIncrement v).value = v.toNat := by
  have hshift : (v >>> rtcMantissaShift).toNat = v.toNat / 2 ^ 27 := shiftRight_toNat (by decide)
  rw [RtcIncrement.value, splitIncrement]
  dsimp only
  rw [and_mantissaMask_toNat, and_fractionMask_toNat, hshift]
  omega

/-- The increment in one word. -/
def RtcIncrement.word (increment : RtcIncrement) : UInt32 :=
  ((increment.mantissa &&& rtcMantissaMask) <<< rtcMantissaShift) |||
    (increment.fraction &&& rtcFractionMask)

theorem RtcIncrement.InRange.word_toNat (h : increment.InRange) :
    increment.word.toNat = increment.value := by
  have hin : increment.mantissa.toNat < 2 ^ 4 := h.mantissa
  have hin' := h.fraction
  have hmantissa := @and_mantissaMask_toNat increment.mantissa
  have hfraction := @and_fractionMask_toNat increment.fraction
  rw [Nat.mod_eq_of_lt hin] at hmantissa
  rw [Nat.mod_eq_of_lt hin'] at hfraction
  rw [word, or_shifted_toNat (k := 27) rfl (by decide) (by omega) (by omega), hmantissa, hfraction,
    Limbs.value, value]

/-- A correction is added to a word with room for it. -/
theorem corrected_toNat (hlow : 0 ≤ (v.toNat : ℤ) + w.toInt)
    (hhigh : (v.toNat : ℤ) + w.toInt < 2 ^ 32) :
    ((v + w.toUInt32).toNat : ℤ) = v.toNat + w.toInt := by
  have hword := @toUInt32_toNat w
  have hle := w.le_toInt
  have hlt := w.toInt_lt
  rw [UInt32.toNat_add]
  omega

/-- The modes write nothing but what belongs to them. -/
theorem acquire_frame {accumulator : TdUint64} : ∃ acquiring integral,
    (acquire s w accumulator).1 = { s with acquiring := acquiring, integral := integral } := by
  rw [acquire]
  split
  · split
    · exact ⟨s.acquiring, uint32ToUint64 0, rfl⟩
    · exact ⟨ptpRtcAcquired, uint32ToUint64 0, rfl⟩
  · exact ⟨s.acquiring, s.integral, rfl⟩

theorem control_frame {accumulator : TdUint64} : ∃ acquiring integral derivative previousOffset,
    (control s w accumulator).1 = { s with
      acquiring := acquiring
      integral := integral
      derivative := derivative
      previousOffset := previousOffset } := by
  rw [control]
  split
  · exact ⟨_, _, _, _, rfl⟩
  · exact ⟨s.acquiring, s.integral, s.derivative, s.previousOffset, rfl⟩

/-- The accumulator at the end of the two modes. -/
def accumulated (locals : ServoLocals) (s : RtcServo) (slaveOffset : Int32) : TdUint64 :=
  (control (acquire s slaveOffset locals.accumulator).1 slaveOffset
    (acquire s slaveOffset locals.accumulator).2).2

theorem correctIncrement_eq (hallowed : s.rtcChangesAllowed = true)
    (hvalid : s.masterRateRatioValid = false) :
    (correctIncrement locals s w).currentIncrement =
      splitIncrement (s.nominalIncrement.word +
        (adjustmentOf (accumulated locals s w)).toUInt32) := by
  have hstart : startIncrement s w = (s, s.nominalIncrement.word) := by
    rw [startIncrement, hvalid, if_neg Bool.false_ne_true]
    rfl
  obtain ⟨acquiring, integral, hacquire⟩ := @acquire_frame w s locals.accumulator
  obtain ⟨_, _, _, _, hcontrol⟩ := @control_frame w (acquire s w locals.accumulator).1
    (acquire s w locals.accumulator).2
  have hchanges : (control (acquire s w locals.accumulator).1 w
      (acquire s w locals.accumulator).2).1.rtcChangesAllowed = true := by
    rw [hcontrol, hacquire]
    exact hallowed
  rw [correctIncrement, hstart]
  dsimp only
  rw [if_pos hchanges]
  rfl

/-- **The increment that is written** is the nominal one and the accumulator, clamped. -/
theorem correctIncrement_value (hallowed : s.rtcChangesAllowed = true)
    (hvalid : s.masterRateRatioValid = false) (hrange : s.nominalIncrement.InRange)
    (hlow : 2 ^ 24 ≤ s.nominalIncrement.value)
    (hhigh : s.nominalIncrement.value + 2 ^ 24 < 2 ^ 31) :
    ((correctIncrement locals s w).currentIncrement.value : ℤ) =
      s.nominalIncrement.value + clamp (2 ^ 24) (accumulated locals s w).toInt := by
  have hnominal := hrange.word_toNat
  have hclamp := abs_clamp_le (m := 2 ^ 24) (x := (accumulated locals s w).toInt) (by decide)
  rw [abs_le, ← adjustmentOf_toInt] at hclamp
  have hadjusted := corrected_toNat (v := s.nominalIncrement.word)
    (w := adjustmentOf (accumulated locals s w)) (by omega) (by omega)
  rw [correctIncrement_eq hallowed hvalid, splitIncrement_value (by omega), hadjusted, hnominal,
    adjustmentOf_toInt]

/-! ### Acquiring -/

/-- The product with the coefficient for acquiring loses no carry: its low half is zero. -/
theorem middleSumFits_coeff {k : ℕ} : MiddleSumFits (2 ^ 29) k := by
  rw [MiddleSumFits, Limbs.middleSum, show 2 ^ 29 / 2 ^ 16 = 2 ^ 13 from rfl,
    show 2 ^ 29 % 2 ^ 16 = 0 from rfl]
  omega

/-- **The contribution while acquiring** is twice the offset, the other way. -/
theorem contribution_acquire :
    (contribution acquireCoeffP (int32ToInt64 w)).toInt = -2 * w.toInt := by
  have hle := w.le_toInt
  have hlt := w.toInt_lt
  have hcoeff : (int32ToInt64 acquireCoeffP).toInt = -2 ^ 29 :=
    int32ToInt64_toInt.trans (by decide)
  have hproduct := (int64TimesInt64_exact_iff (a := int32ToInt64 acquireCoeffP)
    (b := int32ToInt64 w)).mpr (by
      rw [hcoeff]
      exact middleSumFits_coeff)
  rw [hcoeff, int32ToInt64_toInt] at hproduct
  have hvalue := toInt_of_emod hproduct (by omega) (by omega)
  rw [contribution, int64RShift_toInt (by decide) (by decide), hvalue]
  show -2 ^ 29 * w.toInt / 2 ^ 28 = _
  omega

/-- Far from the master, the loop goes on acquiring. -/
theorem accumulated_acquiring (hacquiring : s.acquiring = ptpRtcAcquiring)
    (hfar : 10000 < |w.toInt|) : (accumulated locals s w).toInt = -2 * w.toInt := by
  have hfar' : acquireThreshold < w ∨ w < -acquireThreshold := by
    rw [Int32.lt_iff_toInt_lt, Int32.lt_iff_toInt_lt]
    exact (lt_abs.mp hfar).imp_right fun h => by
      show w.toInt < -10000
      omega
  have hacquire : acquire s w locals.accumulator = ({ s with integral := uint32ToUint64 0 },
      contribution acquireCoeffP (int32ToInt64 w)) := by
    rw [acquire, if_pos hacquiring, if_pos hfar']
    rfl
  have hmode : ¬ s.acquiring = ptpRtcAcquired := by
    rw [hacquiring]
    decide
  rw [accumulated, hacquire, control]
  dsimp only
  rw [if_neg hmode]
  exact contribution_acquire

/-! ### The whole step -/

/-- The values of the loop, without a rate ratio. -/
def RtcServo.unrated (s : RtcServo) : RtcServo := { s with masterRateRatioValid := false }

/-- Without a rate ratio of the neighbor the servo goes by the nominal increment. -/
theorem rtcUpdateServo_peer (hmechanism : t.delayMechanism = delayMechanismP2P)
    (hrate : (t.ports p).neighborRateRatioValid = false) :
    rtcUpdateServo locals t p =
      { t with toRtcServo :=
        { correctIncrement locals t.unrated (t.ports p).peerOffset with
          rtcLastOffsetValid := true
          rtcLastOffset := (t.ports p).peerOffset } } := by
  have hmeasured : measureOffset locals t p =
      ({ t with toRtcServo := t.unrated }, some (t.ports p).peerOffset) := by
    have hendToEnd : ¬ t.delayMechanism = delayMechanismE2E := by
      rw [hmechanism]
      decide
    rw [measureOffset, if_neg hendToEnd, RtcServo.rated, hrate, if_neg Bool.false_ne_true]
    rfl
  rw [rtcUpdateServo, hmeasured]
  rfl

/-- The increment that `rtc_update_servo` writes is near the nominal one. -/
structure StepsNearNominal (locals : ServoLocals) (t : ServoSystem n) (p : Fin n) : Prop where
  /-- It is within an eighth of a nanosecond. -/
  near : |((rtcUpdateServo locals t p).currentIncrement.value : ℤ) - t.nominalIncrement.value| ≤
    2 ^ 24
  /-- Far from the master it differs by twice the offset, the other way, within these bounds. -/
  acquiring : t.acquiring = ptpRtcAcquiring → 10000 < |(t.ports p).peerOffset.toInt| →
    ((rtcUpdateServo locals t p).currentIncrement.value : ℤ) - t.nominalIncrement.value =
      clamp (2 ^ 24) (-2 * (t.ports p).peerOffset.toInt)
  slower : t.acquiring = ptpRtcAcquiring → 10000 < (t.ports p).peerOffset.toInt →
    (rtcUpdateServo locals t p).currentIncrement.value < t.nominalIncrement.value
  faster : t.acquiring = ptpRtcAcquiring → (t.ports p).peerOffset.toInt < -10000 →
    t.nominalIncrement.value < (rtcUpdateServo locals t p).currentIncrement.value

/-- **The servo's step is bounded, and it steers the right way**, in peer-to-peer mode without a
rate ratio, whatever the mode, the coefficients, the integral, the derivative and the timestamps
are. -/
theorem servoStep_bounded (locals : ServoLocals) (t : ServoSystem n) (p : Fin n)
    (hmechanism : t.delayMechanism = delayMechanismP2P)
    (hrate : (t.ports p).neighborRateRatioValid = false) (hallowed : t.rtcChangesAllowed = true)
    (hmantissa : 4 ≤ t.nominalIncrement.mantissa.toNat)
    (hmantissa' : t.nominalIncrement.mantissa.toNat ≤ 10)
    (hfraction : t.nominalIncrement.fraction.toNat < 2 ^ 27) : StepsNearNominal locals t p := by
  have hbounds : 2 ^ 24 ≤ t.nominalIncrement.value ∧
      t.nominalIncrement.value + 2 ^ 24 < 2 ^ 31 := by
    rw [RtcIncrement.value]
    omega
  have hin : t.unrated.nominalIncrement.InRange :=
    ⟨Nat.lt_of_le_of_lt hmantissa' (by decide), hfraction⟩
  have hvalue : ((correctIncrement locals t.unrated
        (t.ports p).peerOffset).currentIncrement.value : ℤ) =
      t.unrated.nominalIncrement.value +
        clamp (2 ^ 24) (accumulated locals t.unrated (t.ports p).peerOffset).toInt :=
    correctIncrement_value hallowed rfl hin hbounds.1 hbounds.2
  have hwritten : (rtcUpdateServo locals t p).currentIncrement =
      (correctIncrement locals t.unrated (t.ports p).peerOffset).currentIncrement := by
    rw [rtcUpdateServo_peer hmechanism hrate]
  have hnominal : t.unrated.nominalIncrement = t.nominalIncrement := rfl
  rw [← hwritten, hnominal] at hvalue
  have hfar : t.acquiring = ptpRtcAcquiring → 10000 < |(t.ports p).peerOffset.toInt| →
      ((rtcUpdateServo locals t p).currentIncrement.value : ℤ) =
        t.nominalIncrement.value + clamp (2 ^ 24) (-2 * (t.ports p).peerOffset.toInt) := by
    intro hacquiring hfar
    have haccumulated : (accumulated locals t.unrated (t.ports p).peerOffset).toInt =
        -2 * (t.ports p).peerOffset.toInt := accumulated_acquiring hacquiring hfar
    rw [hvalue, haccumulated]
  refine ⟨?_, fun hacquiring hoffset => ?_, fun hacquiring hoffset => ?_,
    fun hacquiring hoffset => ?_⟩
  · rw [hvalue, add_sub_cancel_left]
    exact abs_clamp_le (by decide)
  · rw [hfar hacquiring hoffset, add_sub_cancel_left]
  · have hstep := hfar hacquiring (lt_abs.mpr (Or.inl hoffset))
    rw [clamp] at hstep
    omega
  · have hstep := hfar hacquiring (lt_abs.mpr (Or.inr (lt_neg.mpr hoffset)))
    rw [clamp] at hstep
    omega

/-! ### A millisecond ahead -/

/-- A port that has received a Sync message a millisecond late. -/
def latePort : ServoPort where
  toPdelayPort := freshPort 0
  delayReqTxLocalTimestamp := ⟨0, 0, 0⟩
  delayReqRxTimestamp := ⟨0, 0, 0⟩
  syncRxTimestamp := ⟨0, 1, 1000000⟩
  syncTxTimestamp := ⟨0, 1, 0⟩
  syncTimestampsValid := true
  delayReqTxTimestamp := ⟨0, 0, 0⟩
  delayReqTimestampsValid := false
  cumulativeScaledRateOffset := 0

/-- A loop that acquires its master over that port. -/
def acquiringSystem : ServoSystem 1 where
  toRtcServo := { restingServo with acquiring := ptpRtcAcquiring }
  ports := fun _ => latePort
  delayMechanism := delayMechanismP2P

/-- What the local variables hold. -/
def exampleLocals : ServoLocals := ⟨.zero, .zero⟩

theorem servoStep_latePort : StepsNearNominal exampleLocals acquiringSystem ⟨0, Nat.one_pos⟩ :=
  servoStep_bounded exampleLocals acquiringSystem ⟨0, Nat.one_pos⟩ rfl rfl rfl (by decide)
    (by decide) (by decide)

end Gptp
