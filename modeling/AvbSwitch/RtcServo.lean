/-
The control loop of the clock: `set_rtc_increment` and `rtc_update_servo` of vtss_gptp.c.

`rtc_update_servo` measures how far the clock of the slave is off, and corrects the increment that
is added to the clock with each tick.  The first half reads the timestamps of a port; the second
half works on the values of the loop alone (`RtcServo`).  Sums of `int`s wrap around.

Two local variables are read before they are written: `tempRate1`, and `accumulator` if the loop is
in neither mode.  What they hold then is a parameter (`ServoLocals`).
-/
import AvbSwitch.Int64Arithmetic
import AvbSwitch.RateRatio

namespace Gptp

variable {n : ℕ}

/-! ### The values of the loop -/

/-- `RtcIncrement`. -/
structure RtcIncrement where
  mantissa : UInt32
  fraction : UInt32
  deriving DecidableEq, Repr

/-- `PtpCoefficients`. -/
structure PtpCoefficients where
  P : Int32
  I : Int32
  D : Int32
  deriving DecidableEq, Repr

/-- `vtss_rtc_clock_vars_t`. -/
structure RtcClockVars where
  rtcAdj : TdUint64
  rtcNominal : TdUint64
  rtcFraction : TdUint64
  deriving DecidableEq, Repr

/-- `struct gptpm`, as far as the control loop reads and writes it. -/
structure RtcServo where
  nominalIncrement : RtcIncrement
  coefficients : PtpCoefficients
  masterRateRatio : UInt32
  masterRateRatioValid : Bool
  integral : TdUint64
  derivative : Int32
  previousOffset : Int32
  rtcChangesAllowed : Bool
  rtcLastOffset : Int32
  rtcLastOffsetValid : Bool
  acquiring : UInt32
  currentIncrement : RtcIncrement
  rtcClockVars : RtcClockVars
  deriving DecidableEq, Repr

/-- `PTP_RTC_ACQUIRED`. -/
def ptpRtcAcquired : UInt32 := 0

/-- `PTP_RTC_ACQUIRING`. -/
def ptpRtcAcquiring : UInt32 := 1

/-- `ACQUIRE_THRESHOLD`. -/
def acquireThreshold : Int32 := 10000

/-- `ACQUIRE_COEFF_P`. -/
def acquireCoeffP : Int32 := (0xE0000000 : UInt32).toInt32

/-- `INCREMENT_DELTA_MAX`, which is `INCREMENT_EIGHTH`. -/
def incrementDeltaMax : Int32 := 0x01000000

/-- `INCREMENT_DELTA_MIN`, which is `INCREMENT_NEG_EIGHTH`. -/
def incrementDeltaMin : Int32 := (0xFF000000 : UInt32).toInt32

/-- `COEFF_PRODUCT_SHIFT`. -/
def coeffProductShift : Int32 := 28

/-- `RTC_MANTISSA_MASK`. -/
def rtcMantissaMask : UInt32 := 0x0000000F

/-- `RTC_MANTISSA_SHIFT`. -/
def rtcMantissaShift : UInt32 := 27

/-- `RTC_FRACTION_MASK`. -/
def rtcFractionMask : UInt32 := 0x07FFFFFF

/-- `INTEGRAL_MAX_ABS`. -/
def integralMaxAbs : Int32 := 100000

/-- `servoCount`: it is counted only where `SLAVE_OFFSET_DEBUG` is defined, and it is not. -/
def servoCount : UInt32 := 0

/-! ### The increment -/

/-- Mantissa and fraction in one number. -/
def assembleIncrement (increment : RtcIncrement) : TdUint64 :=
  uint64Or (uint64LShift (uint32ToUint64 increment.mantissa) 27)
    (uint32ToUint64 increment.fraction)

/-- `set_rtc_increment`. -/
def setRtcIncrement (s : RtcServo) (increment : RtcIncrement) : RtcServo :=
  let rtcAdj := uint64LShift (assembleIncrement increment) 32
  let rtcNominal := assembleIncrement s.nominalIncrement
  { s with
    currentIncrement := increment
    rtcClockVars :=
      { rtcAdj := rtcAdj
        rtcNominal := rtcNominal
        rtcFraction := uint64RShift (uint64DividedByUint64 rtcAdj rtcNominal) 1 } }

/-! ### The offset -/

/-- A port with the timestamps that the offset is computed from. -/
structure ServoPort extends RatePort where
  syncRxTimestamp : PtpTime
  syncTxTimestamp : PtpTime
  syncTimestampsValid : Bool
  delayReqTxTimestamp : PtpTime
  delayReqTimestampsValid : Bool
  cumulativeScaledRateOffset : UInt32

/-- The control loop, with the ports. -/
structure ServoSystem (n : ℕ) extends RtcServo where
  ports : Fin n → ServoPort
  delayMechanism : UInt8

/-- `PTP_DELAY_MECHANISM_E2E`. -/
def delayMechanismE2E : UInt8 := 0x01

/-- What `rtc_update_servo` reads of its own before it has written it. -/
structure ServoLocals where
  tempRate1 : TdUint64
  accumulator : TdUint64

/-- Put a port in its place. -/
def ServoSystem.setPort (t : ServoSystem n) (p : Fin n) (pp : ServoPort) : ServoSystem n :=
  { t with ports := Function.update t.ports p pp }

/-- Call `computeDelayRateRatio`. -/
def ServoSystem.computeRate (t : ServoSystem n) (p : Fin n) : ServoSystem n :=
  let rates := computeDelayRateRatio
    ⟨fun i => (t.ports i).toRatePort, t.masterRateRatio, t.masterRateRatioValid⟩ p
  { t with
    ports := fun i => { t.ports i with toRatePort := rates.ports i }
    masterRateRatio := rates.masterRateRatio
    masterRateRatioValid := rates.masterRateRatioValid }

/-- The offset without the link delay that was computed last; the subtraction is unsigned. -/
def ServoPort.peerOffset (pp : ServoPort) : Int32 :=
  let difference := timestampDifference pp.syncRxTimestamp pp.syncTxTimestamp
  (difference.nanoseconds.toUInt32 - pp.neighborPropDelay).toInt32

/-- The difference of the delay request. -/
def ServoPort.delayDifference (pp : ServoPort) : PtpTime :=
  timestampDifference pp.delayReqTxTimestamp pp.delayReqRxTimestamp

/-- Half the sum of the two differences. -/
def ServoPort.endToEndOffset (pp : ServoPort) : Int32 :=
  let difference := timestampDifference pp.syncRxTimestamp pp.syncTxTimestamp
  (difference.nanoseconds + pp.delayDifference.nanoseconds) >>> 1

/-- The delay is saved, and the timestamps of the delay request are not used again. -/
def ServoPort.saveDelay (pp : ServoPort) (slaveOffset : Int32) : ServoPort :=
  { pp with
    neighborPropDelay := ((0 - pp.delayDifference.nanoseconds) + slaveOffset).toUInt32
    delayReqTimestampsValid := false }

/-- The cumulative rate ratio, with that of the neighbor. -/
def cumulativeRateRatio (locals : ServoLocals) (pp : ServoPort) : UInt32 :=
  let tempRate1 := int64AddInt32 locals.tempRate1 (pp.cumulativeScaledRateOffset.toInt32 >>> 10)
  let tempRate2 := uint64AddUint32 tempRate1 0x80000000
  (uint64RShift (uint64TimesUint32 tempRate2 pp.neighborRateRatio) 31).lowPart

/-- The rate ratio of the master, if that of the neighbor is known. -/
def RtcServo.rated (locals : ServoLocals) (s : RtcServo) (pp : ServoPort) : RtcServo :=
  if pp.neighborRateRatioValid then
    { s with masterRateRatio := cumulativeRateRatio locals pp, masterRateRatioValid := true }
  else { s with masterRateRatioValid := false }

/-- The first half of `rtc_update_servo`: the offset, if it is valid. -/
def measureOffset (locals : ServoLocals) (t : ServoSystem n) (p : Fin n) :
    ServoSystem n × Option Int32 :=
  let pp := t.ports p
  if t.delayMechanism = delayMechanismE2E then
    if pp.syncTimestampsValid && pp.delayReqTimestampsValid then
      let t := t.computeRate p
      let slaveOffset := (t.ports p).endToEndOffset
      (t.setPort p ((t.ports p).saveDelay slaveOffset), some slaveOffset)
    else if pp.syncTimestampsValid then (t, some pp.peerOffset)
    else (t, none)
  else ({ t with toRtcServo := t.rated locals pp }, some pp.peerOffset)

/-! ### The correction -/

/-- The increment that is corrected.  If the offset has crossed zero, the integral is damped. -/
def startIncrement (s : RtcServo) (slaveOffset : Int32) : RtcServo × UInt32 :=
  if s.masterRateRatioValid then
    (if (slaveOffset < 0 ∧ 0 < s.previousOffset) ∨ (0 < slaveOffset ∧ s.previousOffset < 0) then
        { s with integral := uint64RShift s.integral 1 }
      else s,
      s.masterRateRatio >>> 1)
  else
    (s, ((s.nominalIncrement.mantissa &&& rtcMantissaMask) <<< rtcMantissaShift) |||
      (s.nominalIncrement.fraction &&& rtcFractionMask))

/-- A coefficient's contribution. -/
def contribution (coefficient : Int32) (value : TdUint64) : TdUint64 :=
  int64RShift (int64TimesInt64 (int32ToInt64 coefficient) value) coeffProductShift

/-- The part for `PTP_RTC_ACQUIRING`: the mode, the integral and the accumulator. -/
def acquire (s : RtcServo) (slaveOffset : Int32) (accumulator : TdUint64) : RtcServo × TdUint64 :=
  if s.acquiring = ptpRtcAcquiring then
    if acquireThreshold < slaveOffset ∨ slaveOffset < -acquireThreshold then
      let accumulator := contribution acquireCoeffP (int32ToInt64 slaveOffset)
      ({ s with integral := uint32ToUint64 0 },
        if 10 ≤ servoCount then int64RShift accumulator 32 else accumulator)
    else ({ s with acquiring := ptpRtcAcquired, integral := uint32ToUint64 0 }, accumulator)
  else (s, accumulator)

/-- The clamping of the integral.  Its upper word has no sign, so that neither has the comparison;
and the lower bound is made of a word without its sign. -/
def clampIntegral (integral : TdUint64) : TdUint64 :=
  let constant := uint32ToUint64 integralMaxAbs.toUInt32
  let constant2 := uint32ToUint64 (-integralMaxAbs).toUInt32
  if uint64Less constant integral then uint32ToUint64 integralMaxAbs.toUInt32
  else if uint64Less integral constant2 then int32ToInt64 (-integralMaxAbs)
  else integral

/-- The part for `PTP_RTC_ACQUIRED`: the three contributions. -/
def control (s : RtcServo) (slaveOffset : Int32) (accumulator : TdUint64) : RtcServo × TdUint64 :=
  if s.acquiring = ptpRtcAcquired then
    let slaveOffsetExtended := int32ToInt64 slaveOffset
    let integral := clampIntegral (uInt64Add s.integral slaveOffsetExtended)
    let derivative := s.derivative + (slaveOffset - s.previousOffset)
    ({ s with
        acquiring :=
          if 8 * acquireThreshold < slaveOffset ∨ slaveOffset < 8 * -acquireThreshold then
            ptpRtcAcquiring
          else s.acquiring
        integral := integral
        derivative := derivative
        previousOffset := slaveOffset },
      int64Add
        (int64Add (contribution s.coefficients.P slaveOffsetExtended)
          (contribution s.coefficients.I integral))
        (contribution s.coefficients.D (int32ToInt64 derivative)))
  else (s, accumulator)

/-- The clamping of the correction. -/
def adjustmentOf (accumulator : TdUint64) : Int32 :=
  if int64Less (int32ToInt64 incrementDeltaMax) accumulator then incrementDeltaMax
  else if int64Less accumulator (int32ToInt64 incrementDeltaMin) then incrementDeltaMin
  else int64ToInt32 accumulator

/-- An increment taken apart. -/
def splitIncrement (newRtcIncrement : UInt32) : RtcIncrement where
  mantissa := (newRtcIncrement >>> rtcMantissaShift) &&& rtcMantissaMask
  fraction := newRtcIncrement &&& rtcFractionMask

/-- The second half of `rtc_update_servo`, for an offset that is valid. -/
def correctIncrement (locals : ServoLocals) (s : RtcServo) (slaveOffset : Int32) : RtcServo :=
  let start := startIncrement s slaveOffset
  let acquired := acquire start.1 slaveOffset locals.accumulator
  let controlled := control acquired.1 slaveOffset acquired.2
  let newRtcIncrement := start.2 + (adjustmentOf controlled.2).toUInt32
  if controlled.1.rtcChangesAllowed then
    setRtcIncrement controlled.1 (splitIncrement newRtcIncrement)
  else controlled.1

/-- `rtc_update_servo`. -/
def rtcUpdateServo (locals : ServoLocals) (t : ServoSystem n) (p : Fin n) : ServoSystem n :=
  let measured := measureOffset locals t p
  let corrected : RtcServo :=
    match measured.2 with
    | some slaveOffset => correctIncrement locals measured.1.toRtcServo slaveOffset
    | none => measured.1.toRtcServo
  { measured.1 with
    toRtcServo := { corrected with
      rtcLastOffsetValid := measured.2.isSome
      rtcLastOffset := measured.2.getD 0 } }

end Gptp
