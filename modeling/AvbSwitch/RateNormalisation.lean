/-
How the rate ratio of the peer delay mechanism is normalised, and which times it is computed from.

The shift of 31 bits is split between the two intervals.  The one of the responder is shifted up
until its leading bit is the first of its upper word, so that no bit is lost.

* `rateRatio_normalised` — the quotient for all intervals, and the ratio of equal ones;
* `dropsBackwardClock_iff` — a clock that went backwards is found out by whole seconds only.
-/
import AvbSwitch.FixedPointRatio
import AvbSwitch.MeasuredDelay
import AvbSwitch.RateRatio

namespace Gptp

open FixedPoint

variable {pp : PdelayPort} {a b : PtpTime} {r q : TdUint64} {n m : ℕ} {d : ℤ}

/-! ### The part that forms the ratio -/

/-- The port with the timestamps that the next interval starts from. -/
def PdelayPort.rolled (pp : PdelayPort) : PdelayPort :=
  { pp with
    pdelayRespTxTimestampI := pp.pdelayRespTxTimestamp.time
    pdelayRespRxTimestampI := pp.pdelayRespRxTimestamp.time }

/-- What `computePdelayRateRatio` does with the lengths of the two intervals. -/
def storeRateRatio (pp : PdelayPort) (nsResponder nsRequester : TdUint64) : PdelayPort :=
  let shift := rateRatioShift nsResponder
  let tempval := uint64RShift nsRequester (UInt32.ofNat (31 - shift))
  if tempval ≠ .zero then
    let rateRatio := uint64DividedByUint64 (uint64LShift nsResponder (UInt32.ofNat shift)) tempval
    { pp with neighborRateRatio := rateRatio.lowPart, neighborRateRatioValid := true }
  else pp

/-- The difference that the responder's interval is computed from, and that of the requester. -/
def PdelayPort.difference (pp : PdelayPort) : PtpTime :=
  timestampDifference pp.pdelayRespTxTimestamp.time pp.pdelayRespTxTimestampI

def PdelayPort.difference2 (pp : PdelayPort) : PtpTime :=
  timestampDifference pp.pdelayRespRxTimestamp.time pp.pdelayRespRxTimestampI

/-- One of the differences has negative upper seconds. -/
def PdelayPort.Backwards (pp : PdelayPort) : Prop :=
  pp.difference.secondsUpper < 0 ∨ pp.difference2.secondsUpper < 0

theorem computePdelayRateRatio_backwards (hinit : pp.initPdelayRespReceived = true)
    (h : pp.Backwards) : computePdelayRateRatio pp =
      { pp.rolled with initPdelayRespReceived := false, neighborRateRatioValid := false } := by
  have hreceived : ¬ (!pp.initPdelayRespReceived) = true := by
    rw [hinit]
    decide
  rw [computePdelayRateRatio, if_neg hreceived]
  exact if_pos (backwards_iff.mpr h)

theorem computePdelayRateRatio_forwards (hinit : pp.initPdelayRespReceived = true)
    (h : ¬ pp.Backwards) : computePdelayRateRatio pp =
      storeRateRatio pp.rolled (nanosecondsOf pp.difference) (nanosecondsOf pp.difference2) := by
  have hreceived : ¬ (!pp.initPdelayRespReceived) = true := by
    rw [hinit]
    decide
  rw [computePdelayRateRatio, if_neg hreceived]
  exact if_neg (mt backwards_iff.mp h)

/-! ### The quotient -/

/-- The quotient that is cut to one word. -/
def ratioOf (nsResponder nsRequester : TdUint64) : TdUint64 :=
  uint64DividedByUint64 (uint64LShift nsResponder (UInt32.ofNat (rateRatioShift nsResponder)))
    (uint64RShift nsRequester (UInt32.ofNat (31 - rateRatioShift nsResponder)))

/-- The divisor is zero if the interval of the requester is too short. -/
theorem divisor_eq_zero_iff :
    uint64RShift q (UInt32.ofNat (31 - rateRatioShift r)) = .zero ↔
      q.toNat / 2 ^ (31 - rateRatioShift r) = 0 := by
  rw [← toNat_eq_zero_iff, divisor_toNat, ratioDivisor, ratioShift, ← rateRatioShift_eq]

/-- **The quotient**, in numbers. -/
theorem ratioOf_toNat (h : q.toNat / 2 ^ (31 - rateRatioShift r) ≠ 0) :
    (ratioOf r q).toNat = splitRatio 31 (rateRatioShift r) r.toNat q.toNat := by
  have hne := mt divisor_eq_zero_iff.mp h
  rw [ratioOf, uint64DividedByUint64, (uint64DivMod_toNat hne).1, dividend_toNat, divisor_toNat,
    splitRatio, ratioDivisor, ratioShift, ← rateRatioShift_eq]

theorem rateRatioShift_le : rateRatioShift r ≤ 31 := by
  rw [rateRatioShift_eq]
  exact Nat.min_le_left _ _

/-- The shift is whole for intervals of less than 2^33 nanoseconds. -/
theorem rateRatioShift_short (h : r.toNat < 2 ^ 33) : rateRatioShift r = 31 := by
  have hlog := log2_lt (by omega) h
  rw [rateRatioShift_eq]
  omega

/-- A shift that is split leaves the divisor as many bits as there are behind the point. -/
theorem rateRatioShift_long (h : rateRatioShift r < 31) :
    2 ^ 31 ≤ r.toNat / 2 ^ (31 - rateRatioShift r) := by
  have hlog : r.toNat.log2 < 64 := log2_lt (by omega) r.toNat_lt
  have hne : r.toNat ≠ 0 := by
    intro hzero
    rw [rateRatioShift_eq, hzero] at h
    exact absurd h (by decide)
  rw [rateRatioShift_eq] at h ⊢
  rw [Nat.le_div_iff_mul_le (Nat.two_pow_pos _), ← pow_add]
  exact le_trans (Nat.pow_le_pow_right Nat.two_pos (by omega)) (Nat.log2_self_le hne)

/-- **Equal intervals** have the ratio one. -/
theorem ratioOf_self (hr : r ≠ .zero) : (ratioOf r r).toNat = 2 ^ 31 ∧
    r.toNat / 2 ^ (31 - rateRatioShift r) ≠ 0 := by
  have hpos := toNat_pos hr
  by_cases hshort : rateRatioShift r < 31
  · have hlong := rateRatioShift_long hshort
    have hne : r.toNat / 2 ^ (31 - rateRatioShift r) ≠ 0 := by omega
    rw [ratioOf_toNat hne]
    exact ⟨splitRatio_self rateRatioShift_le hlong, hne⟩
  · have hwhole : rateRatioShift r = 31 :=
      Nat.le_antisymm rateRatioShift_le (Nat.le_of_not_lt hshort)
    have hne : r.toNat / 2 ^ (31 - rateRatioShift r) ≠ 0 := by
      rw [hwhole, Nat.sub_self, Nat.pow_zero, Nat.div_one]
      exact hpos.ne'
    rw [ratioOf_toNat hne]
    rw [hwhole] at hne ⊢
    exact ⟨splitRatio_whole.trans (ratio_self hpos), hne⟩

/-- **The rate ratio is normalised without loss**, for all lengths of the two intervals.  The shift
up loses no bit, there is no division by zero, the quotient is not less than the ratio with 31 bits
behind the point, and equal to it for short intervals; for equal ones the ratio is one. -/
theorem rateRatio_normalised (pp : PdelayPort) (r q : TdUint64) :
    (pp.initPdelayRespReceived = true → ¬ pp.Backwards → computePdelayRateRatio pp =
        storeRateRatio pp.rolled (nanosecondsOf pp.difference) (nanosecondsOf pp.difference2)) ∧
      ((uint64LShift r (UInt32.ofNat (rateRatioShift r))).toNat = r.toNat * 2 ^ rateRatioShift r ∧
        r.toNat * 2 ^ rateRatioShift r < 2 ^ 64) ∧
      (q.toNat / 2 ^ (31 - rateRatioShift r) = 0 → storeRateRatio pp r q = pp) ∧
      (q.toNat / 2 ^ (31 - rateRatioShift r) ≠ 0 →
        storeRateRatio pp r q = { pp with
          neighborRateRatio := (ratioOf r q).lowPart
          neighborRateRatioValid := true } ∧
        (ratioOf r q).toNat =
          r.toNat * 2 ^ rateRatioShift r / (q.toNat / 2 ^ (31 - rateRatioShift r)) ∧
        r.toNat * 2 ^ 31 / q.toNat ≤ (ratioOf r q).toNat ∧
        (r.toNat < 2 ^ 33 → (ratioOf r q).toNat = r.toNat * 2 ^ 31 / q.toNat)) ∧
      (r ≠ .zero → (storeRateRatio pp r r).neighborRateRatio = 0x80000000 ∧
        (storeRateRatio pp r r).neighborRateRatioValid = true) := by
  refine ⟨computePdelayRateRatio_forwards, ⟨?_, ?_⟩, fun hzero => ?_, fun hne => ?_, fun hr => ?_⟩
  · rw [dividend_toNat, ratioShift, ← rateRatioShift_eq]
  · have hlt := @shifted_lt r
    rwa [ratioShift, ← rateRatioShift_eq] at hlt
  · exact if_neg (not_not.mpr (divisor_eq_zero_iff.mpr hzero))
  · refine ⟨if_pos (mt divisor_eq_zero_iff.mp hne), ratioOf_toNat hne, ?_, fun hshort => ?_⟩
    · rw [ratioOf_toNat hne]
      exact ratio_le_splitRatio rateRatioShift_le (Nat.pos_of_ne_zero hne)
    · rw [ratioOf_toNat hne, rateRatioShift_short hshort]
      exact splitRatio_whole
  · obtain ⟨hone, hne⟩ := ratioOf_self hr
    have hstore : storeRateRatio pp r r = { pp with
        neighborRateRatio := (ratioOf r r).lowPart
        neighborRateRatioValid := true } := if_pos (mt divisor_eq_zero_iff.mp hne)
    have hword : (ratioOf r r).lowPart = 0x80000000 := UInt32.toNat.inj (by
      rw [TdUint64.lowPart_toNat, hone]
      rfl)
    rw [hstore, hword]
    exact ⟨rfl, rfl⟩

/-! ### Clocks that go backwards -/

/-- A timestamp that is not before the epoch, with less than a second of nanoseconds. -/
structure PtpTime.AfterEpoch (time : PtpTime) : Prop where
  upper_nonneg : 0 ≤ time.secondsUpper.toInt
  nanoseconds_nonneg : 0 ≤ time.nanoseconds.toInt
  nanoseconds_lt : time.nanoseconds.toInt < 10 ^ 9

instance (time : PtpTime) : Decidable time.AfterEpoch :=
  decidable_of_iff (0 ≤ time.secondsUpper.toInt ∧ 0 ≤ time.nanoseconds.toInt ∧
      time.nanoseconds.toInt < 10 ^ 9)
    ⟨fun ⟨h₁, h₂, h₃⟩ => ⟨h₁, h₂, h₃⟩, fun ⟨h₁, h₂, h₃⟩ => ⟨h₁, h₂, h₃⟩⟩

/-- The two pairs of timestamps. -/
structure PdelayPort.AfterEpoch (pp : PdelayPort) : Prop where
  txTimestamp : pp.pdelayRespTxTimestamp.time.AfterEpoch
  txTimestampI : pp.pdelayRespTxTimestampI.AfterEpoch
  rxTimestamp : pp.pdelayRespRxTimestamp.time.AfterEpoch
  rxTimestampI : pp.pdelayRespRxTimestampI.AfterEpoch

/-- How far the responder's clock went, in nanoseconds. -/
def PdelayPort.responderStep (pp : PdelayPort) : ℤ :=
  pp.pdelayRespTxTimestamp.time.value - pp.pdelayRespTxTimestampI.value

/-- How far the requester's clock went. -/
def PdelayPort.requesterStep (pp : PdelayPort) : ℤ :=
  pp.pdelayRespRxTimestamp.time.value - pp.pdelayRespRxTimestampI.value

/-- **A difference of times after the epoch** is exact: nothing is carried. -/
theorem PtpTime.AfterEpoch.difference (ha : a.AfterEpoch) (hb : b.AfterEpoch) :
    (timestampDifference a b).value = a.value - b.value ∧ (timestampDifference a b).Canonical := by
  obtain ⟨hua, hna, hna'⟩ := ha
  obtain ⟨hub, hnb, hnb'⟩ := hb
  have hua' := a.secondsUpper.toInt_lt
  have hub' := b.secondsUpper.toInt_lt
  have hns : (a.nanoseconds - b.nanoseconds).toInt = a.nanoseconds.toInt - b.nanoseconds.toInt :=
    toInt_sub_eq (by omega) (by omega)
  have hseconds := @seconds_sub a b (a.nanoseconds - b.nanoseconds) (by omega) (by omega)
  have hfraction : PtpTime.Fraction ⟨a.secondsUpper - b.secondsUpper -
      (if a.secondsLower < b.secondsLower then 1 else 0), a.secondsLower - b.secondsLower,
        a.nanoseconds - b.nanoseconds⟩ := by
    rw [PtpTime.Fraction, hns]
    omega
  obtain ⟨hvalue, hcanonical⟩ := normalizeTimestamp_spec hfraction
  rw [timestampDifference, carryNanoseconds_eq hfraction]
  refine ⟨hvalue.trans ?_, hcanonical⟩
  rw [PtpTime.value, hseconds, hns, PtpTime.value, PtpTime.value]
  ring

/-- The upper seconds of a difference are negative if it is a whole second at least. -/
theorem upper_neg_iff (h : a.Canonical) : a.secondsUpper < 0 ↔ a.value ≤ -10 ^ 9 := by
  obtain ⟨⟨hns, hns'⟩, hpos, hneg⟩ := h
  rw [← seconds_neg_iff, PtpTime.value]
  omega

/-- **Nanoseconds** of a difference that is not negative are exact. -/
theorem nanosecondsOf_exact (h : a.Canonical) (hvalue : a.value = d) (hd : 0 ≤ d)
    (hd' : d < 2 ^ 31 * 10 ^ 9) : ((nanosecondsOf a).toNat : ℤ) = d := by
  rw [nanosecondsOf_toNat h, hvalue, excess_eq_zero hd hd']
  omega

theorem step_lt (h : a.Canonical) (hvalue : a.value = d) (hseconds : a.seconds < 2 ^ 31) :
    d < 2 ^ 31 * 10 ^ 9 := by
  obtain ⟨hns, hns'⟩ := h.fraction
  rw [PtpTime.value] at hvalue
  omega

/-- A clock that went backwards makes the port start anew; otherwise the two intervals are the
steps of the clocks, if these are less than 2^31 seconds. -/
def DropsBackwardClock (pp : PdelayPort) : Prop :=
  (pp.responderStep < 0 ∨ pp.requesterStep < 0 →
    (computePdelayRateRatio pp).initPdelayRespReceived = false ∧
      (computePdelayRateRatio pp).neighborRateRatioValid = false) ∧
  (¬ (pp.responderStep < 0 ∨ pp.requesterStep < 0) →
    pp.difference.seconds < 2 ^ 31 → pp.difference2.seconds < 2 ^ 31 →
      computePdelayRateRatio pp =
          storeRateRatio pp.rolled (nanosecondsOf pp.difference) (nanosecondsOf pp.difference2) ∧
        ((nanosecondsOf pp.difference).toNat : ℤ) = pp.responderStep ∧
        ((nanosecondsOf pp.difference2).toNat : ℤ) = pp.requesterStep)

/-- Neither clock went backwards, or one of them by a second at least. -/
def NoSubSecondStep (pp : PdelayPort) : Prop :=
  pp.responderStep ≤ -10 ^ 9 ∨ pp.requesterStep ≤ -10 ^ 9 ∨
    (0 ≤ pp.responderStep ∧ 0 ≤ pp.requesterStep)

theorem storeRateRatio_init : (storeRateRatio pp r q).initPdelayRespReceived =
    pp.initPdelayRespReceived := by
  rw [storeRateRatio]
  dsimp only
  split
  · rfl
  · rfl

/-- **A clock that went backwards is dropped** exactly if no clock went backwards by less than a
second, or one went by more. -/
theorem dropsBackwardClock_iff (pp : PdelayPort) (hinit : pp.initPdelayRespReceived = true)
    (h : pp.AfterEpoch) : DropsBackwardClock pp ↔ NoSubSecondStep pp := by
  obtain ⟨hvalue, hcanonical⟩ := h.txTimestamp.difference h.txTimestampI
  obtain ⟨hvalue', hcanonical'⟩ := h.rxTimestamp.difference h.rxTimestampI
  have hback : pp.Backwards ↔ pp.responderStep ≤ -10 ^ 9 ∨ pp.requesterStep ≤ -10 ^ 9 := by
    rw [PdelayPort.Backwards, PdelayPort.difference, PdelayPort.difference2,
      upper_neg_iff hcanonical, upper_neg_iff hcanonical', hvalue, hvalue']
    rfl
  have hkept : ¬ pp.Backwards → (computePdelayRateRatio pp).initPdelayRespReceived = true := by
    intro hforwards
    rw [computePdelayRateRatio_forwards hinit hforwards, storeRateRatio_init]
    exact hinit
  rw [NoSubSecondStep, ← or_assoc, ← hback]
  by_cases hbackwards : pp.Backwards
  · refine iff_of_true ⟨fun _ => ?_, fun hsteps => ?_⟩ (Or.inl hbackwards)
    · rw [computePdelayRateRatio_backwards hinit hbackwards]
      exact ⟨rfl, rfl⟩
    · have hsecond := hback.mp hbackwards
      exact absurd (by omega) hsteps
  · rw [or_iff_right hbackwards]
    constructor
    · rintro ⟨hdropped, -⟩
      by_contra hsteps
      obtain ⟨hfalse, -⟩ := hdropped (by omega)
      rw [hkept hbackwards] at hfalse
      exact Bool.noConfusion hfalse
    · rintro ⟨hresponder, hrequester⟩
      refine ⟨fun hsteps => absurd hsteps (by omega), fun _ hseconds hseconds' => ?_⟩
      refine ⟨computePdelayRateRatio_forwards hinit hbackwards,
        nanosecondsOf_exact hcanonical hvalue hresponder ?_,
        nanosecondsOf_exact hcanonical' hvalue' hrequester ?_⟩
      · exact step_lt hcanonical hvalue hseconds
      · exact step_lt hcanonical' hvalue' hseconds'

/-! ### Half a second back -/

/-- A port whose peer has set its clock back by half a second. -/
def steppedBackPort : PdelayPort :=
  { freshPort 0 with
    initPdelayRespReceived := true
    pdelayRespTxTimestampI := ⟨0, 1, 500000000⟩
    pdelayRespTxTimestamp := ⟨⟨0, 1, 0⟩, ⟨otherClockResponse, 1⟩⟩
    pdelayRespRxTimestampI := ⟨0, 1, 0⟩
    pdelayRespRxTimestamp := ⟨⟨0, 2, 0⟩, ⟨otherClockResponse, 1⟩⟩ }

theorem steppedBackPort_afterEpoch : steppedBackPort.AfterEpoch where
  txTimestamp := by decide
  txTimestampI := by decide
  rxTimestamp := by decide
  rxTimestampI := by decide

/-- **A step of half a second back is not found out**: the ratio that is stored is taken for the
ratio of the two clocks. -/
theorem steppedBack_kept :
    steppedBackPort.initPdelayRespReceived = true ∧ steppedBackPort.AfterEpoch ∧
      steppedBackPort.responderStep = -500000000 ∧
      (computePdelayRateRatio steppedBackPort).initPdelayRespReceived = true ∧
      (computePdelayRateRatio steppedBackPort).neighborRateRatioValid = true ∧
      ¬ DropsBackwardClock steppedBackPort := by
  have hstep : steppedBackPort.responderStep = -500000000 := by decide
  have hkept : (computePdelayRateRatio steppedBackPort).initPdelayRespReceived = true := by
    decide +kernel
  have hvalid : (computePdelayRateRatio steppedBackPort).neighborRateRatioValid = true := by
    decide +kernel
  refine ⟨rfl, steppedBackPort_afterEpoch, hstep, hkept, hvalid, fun h => ?_⟩
  obtain ⟨hfalse, -⟩ := h.1 (Or.inl (by
    rw [hstep]
    decide))
  rw [hkept] at hfalse
  exact Bool.noConfusion hfalse

theorem dropsBackwardClock_steppedBackPort :
    DropsBackwardClock steppedBackPort ↔ NoSubSecondStep steppedBackPort :=
  dropsBackwardClock_iff steppedBackPort rfl steppedBackPort_afterEpoch

end Gptp
