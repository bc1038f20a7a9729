/-
The integral of the control loop.

It is meant to saturate at `INTEGRAL_MAX_ABS`.  The comparisons of `Int64Less` are those of numbers
without a sign, since the integral has none, and the lower bound is a word without its sign as well.
So the integral is always one of the two bounds, and mostly the wrong one.

* `clampIntegral_toInt` — what is left of the integral;
* `integral_saturates_iff` — over any updates, it saturates as long as it exceeds the upper bound;
  in the range it stays in any case.
-/
import AvbSwitch.Runs
import AvbSwitch.ServoStep

namespace Gptp

open Runs

variable {n : ℕ} {a b i : TdUint64} {w : Int32} {s : RtcServo} {locals : ServoLocals}

/-! ### The clamping -/

theorem uint64Less_iff : uint64Less a b = true ↔ a.toNat < b.toNat := by
  have hlow := a.lowPart.toNat_lt
  have hlow' := b.lowPart.toNat_lt
  rw [uint64Less, decide_eq_true_iff, UInt32.lt_iff_toNat_lt, UInt32.lt_iff_toNat_lt,
    ← UInt32.toNat_inj, TdUint64.toNat, TdUint64.toNat, Limbs.value, Limbs.value]
  omega

/-- `INTEGRAL_MAX_ABS`, as a number. -/
def maxAbs : ℤ := 100000

/-- **What is left of the integral**: the upper bound for numbers above it and for negative ones,
and the lower bound for those between. -/
theorem clampIntegral_toInt :
    (clampIntegral a).toInt = if 0 ≤ a.toInt ∧ a.toInt ≤ maxAbs then -maxAbs else maxAbs := by
  have heq := @TdUint64.toInt_eq a
  have hlt := a.toNat_lt
  have hmax : (uint32ToUint64 integralMaxAbs.toUInt32).toNat = 100000 := by decide
  have hmin : (uint32ToUint64 (-integralMaxAbs).toUInt32).toNat = 2 ^ 32 - 100000 := by decide
  have hupper : (uint32ToUint64 integralMaxAbs.toUInt32).toInt = maxAbs := by decide
  have hlower : (int32ToInt64 (-integralMaxAbs)).toInt = -maxAbs := by decide
  have hbound : maxAbs = 100000 := rfl
  rw [clampIntegral]
  by_cases hover : uint64Less (uint32ToUint64 integralMaxAbs.toUInt32) a = true
  · have hlt := uint64Less_iff.mp hover
    rw [hmax] at hlt
    rw [if_pos hover, hupper]
    split at heq <;> rw [if_neg (by omega)]
  · have hle := mt uint64Less_iff.mpr hover
    rw [hmax] at hle
    have hunder : uint64Less a (uint32ToUint64 (-integralMaxAbs).toUInt32) = true :=
      uint64Less_iff.mpr (by omega)
    rw [if_neg hover, if_pos hunder, hlower]
    split at heq <;> rw [if_pos (by omega)]

/-! ### One update -/

/-- The offset has crossed zero since the update before. -/
def CrossesZero (previousOffset slaveOffset : Int32) : Prop :=
  (slaveOffset < 0 ∧ 0 < previousOffset) ∨ (0 < slaveOffset ∧ previousOffset < 0)

/-- An update while the clock is acquired: the offset is valid, and the integral is not damped, for
there is no rate ratio of the master, or the offset has not crossed zero. -/
structure AcquiredUpdate (n : ℕ) where
  locals : ServoLocals
  system : ServoSystem n
  port : Fin n
  slaveOffset : Int32
  acquired : system.acquiring = ptpRtcAcquired
  valid : (measureOffset locals system port).2 = some slaveOffset
  undamped : (measureOffset locals system port).1.masterRateRatioValid = false ∨
    ¬ CrossesZero (measureOffset locals system port).1.previousOffset slaveOffset

/-- The loop, with the integral that the updates before have left. -/
def ServoSystem.withIntegral (t : ServoSystem n) (integral : TdUint64) : ServoSystem n :=
  { t with integral := integral }

/-- The integral that it leaves. -/
def updateIntegral (integral : TdUint64) (u : AcquiredUpdate n) : Option TdUint64 :=
  some (rtcUpdateServo u.locals (u.system.withIntegral integral) u.port).integral

/-- The integral is within the bounds. -/
def InBounds (integral : TdUint64) : Prop := -maxAbs ≤ integral.toInt ∧ integral.toInt ≤ maxAbs

/-- The update adds the offset to the integral, and clamps it. -/
def Saturates (integral : TdUint64) (u : AcquiredUpdate n) : Prop :=
  (rtcUpdateServo u.locals (u.system.withIntegral integral) u.port).integral.toInt =
    clamp maxAbs (integral.toInt + u.slaveOffset.toInt)

/-- The sum is above the upper bound. -/
def Exceeds (integral : TdUint64) (u : AcquiredUpdate n) : Prop :=
  maxAbs < integral.toInt + u.slaveOffset.toInt

variable {t : ServoSystem n} {p : Fin n} {u : AcquiredUpdate n}

/-- The rate ratio of the master is found without the integral. -/
theorem rated_withIntegral {pp : ServoPort} :
    ({ s with integral := i } : RtcServo).rated locals pp =
      { s.rated locals pp with integral := i } := by
  by_cases hvalid : pp.neighborRateRatioValid = true
  · rw [RtcServo.rated, RtcServo.rated, if_pos hvalid, if_pos hvalid]
  · rw [RtcServo.rated, RtcServo.rated, if_neg hvalid, if_neg hvalid]

theorem rated_acquiring {pp : ServoPort} : (s.rated locals pp).acquiring = s.acquiring := by
  rw [RtcServo.rated]
  split
  · rfl
  · rfl

/-- The offset is measured without the integral. -/
theorem measureOffset_withIntegral : measureOffset locals (t.withIntegral i) p =
    ((measureOffset locals t p).1.withIntegral i, (measureOffset locals t p).2) := by
  by_cases hmechanism : t.delayMechanism = delayMechanismE2E
  · have hmechanism' : (t.withIntegral i).delayMechanism = delayMechanismE2E := hmechanism
    rw [measureOffset, measureOffset, if_pos hmechanism, if_pos hmechanism']
    by_cases hboth : ((t.ports p).syncTimestampsValid && (t.ports p).delayReqTimestampsValid) = true
    · have hboth' : (((t.withIntegral i).ports p).syncTimestampsValid &&
          ((t.withIntegral i).ports p).delayReqTimestampsValid) = true := hboth
      rw [if_pos hboth, if_pos hboth']
      rfl
    · have hboth' : ¬ (((t.withIntegral i).ports p).syncTimestampsValid &&
          ((t.withIntegral i).ports p).delayReqTimestampsValid) = true := hboth
      rw [if_neg hboth, if_neg hboth']
      by_cases hsync : (t.ports p).syncTimestampsValid = true
      · have hsync' : ((t.withIntegral i).ports p).syncTimestampsValid = true := hsync
        rw [if_pos hsync, if_pos hsync']
        rfl
      · have hsync' : ¬ ((t.withIntegral i).ports p).syncTimestampsValid = true := hsync
        rw [if_neg hsync, if_neg hsync']
  · have hmechanism' : ¬ (t.withIntegral i).delayMechanism = delayMechanismE2E := hmechanism
    have hrated : (t.withIntegral i).rated locals ((t.withIntegral i).ports p) =
        { t.rated locals (t.ports p) with integral := i } := rated_withIntegral
    rw [measureOffset, measureOffset, if_neg hmechanism, if_neg hmechanism', hrated]
    rfl

theorem measureOffset_acquiring : (measureOffset locals t p).1.acquiring = t.acquiring := by
  rw [measureOffset]
  by_cases hmechanism : t.delayMechanism = delayMechanismE2E
  · rw [if_pos hmechanism]
    split
    · rfl
    · split
      · rfl
      · rfl
  · rw [if_neg hmechanism]
    exact rated_acquiring

/-- An acquired clock takes the offset into the integral. -/
theorem correctIncrement_integral (hacquired : s.acquiring = ptpRtcAcquired)
    (hundamped : s.masterRateRatioValid = false ∨ ¬ CrossesZero s.previousOffset w) :
    (correctIncrement locals s w).integral =
      clampIntegral (uInt64Add s.integral (int32ToInt64 w)) := by
  have hstart : (startIncrement s w).1 = s := by
    rw [startIncrement]
    obtain hvalid | hcrosses := hundamped
    · rw [hvalid, if_neg Bool.false_ne_true]
    · split
      · exact if_neg hcrosses
      · rfl
  have hacquire : acquire s w locals.accumulator = (s, locals.accumulator) := by
    have hmode : ¬ s.acquiring = ptpRtcAcquiring := by
      rw [hacquired]
      decide
    rw [acquire, if_neg hmode]
  have hcontrol : (control s w locals.accumulator).1.integral =
      clampIntegral (uInt64Add s.integral (int32ToInt64 w)) := by
    rw [control, if_pos hacquired]
  rw [← hcontrol, correctIncrement, hstart, hacquire]
  split
  · rfl
  · rfl

/-- **The integral after an update.** -/
theorem updateIntegral_eq : (rtcUpdateServo u.locals (u.system.withIntegral i) u.port).integral =
    clampIntegral (uInt64Add i (int32ToInt64 u.slaveOffset)) := by
  have hmeasured : measureOffset u.locals (u.system.withIntegral i) u.port =
      ((measureOffset u.locals u.system u.port).1.withIntegral i, some u.slaveOffset) := by
    rw [← u.valid]
    exact measureOffset_withIntegral
  have hacquired : ((measureOffset u.locals u.system u.port).1.withIntegral i).acquiring =
      ptpRtcAcquired := measureOffset_acquiring.trans u.acquired
  rw [rtcUpdateServo, hmeasured]
  exact correctIncrement_integral hacquired u.undamped

/-- The sum of the integral and an offset has room. -/
theorem sum_toInt (h : InBounds i) :
    (uInt64Add i (int32ToInt64 w)).toInt = i.toInt + w.toInt := by
  obtain ⟨hlow, hhigh⟩ := h
  have hle := w.le_toInt
  have hlt := w.toInt_lt
  have hbound : maxAbs = 100000 := rfl
  have hsum := @int64Add_toNat i (int32ToInt64 w)
  rw [int32ToInt64_toInt, int64Add_eq] at hsum
  exact toInt_of_emod hsum (by omega) (by omega)

/-- After every update the integral is one of the bounds. -/
theorem updateIntegral_inBounds {i' : TdUint64} (h : updateIntegral i u = some i') :
    InBounds i' := by
  have hbound : maxAbs = 100000 := rfl
  rw [← Option.some_inj.mp h, updateIntegral_eq, InBounds, clampIntegral_toInt]
  split <;> omega

/-- **An update saturates** exactly if the sum is above the upper bound. -/
theorem saturates_iff (h : InBounds i) : Saturates i u ↔ Exceeds i u := by
  have hbound : maxAbs = 100000 := rfl
  rw [Saturates, Exceeds, updateIntegral_eq, clampIntegral_toInt, sum_toInt h, clamp]
  split <;> omega

/-! ### Sequences of updates -/

/-- **The integral saturates** at each of any updates exactly if each finds a sum above the upper
bound.  It stays within the bounds in any case. -/
theorem integral_saturates_iff (integral : TdUint64) (h : InBounds integral)
    (us : List (AcquiredUpdate n)) :
    (AtEach updateIntegral Saturates integral us ↔ AtEach updateIntegral Exceeds integral us) ∧
      Throughout updateIntegral InBounds integral us := by
  refine ⟨atEach_congr (K := InBounds) (fun _ hstep => updateIntegral_inBounds hstep)
    (fun u _ i hi => saturates_iff hi) h, fun pre i' _ hrun => ?_⟩
  exact run_invariant (fun _ hstep => updateIntegral_inBounds hstep) h hrun

/-! ### A nanosecond -/

/-- A loop whose clock is a nanosecond ahead of its master. -/
def nanosecondUpdate : AcquiredUpdate 1 where
  locals := exampleLocals
  system :=
    { acquiringSystem with
      acquiring := ptpRtcAcquired
      ports := fun _ => { latePort with syncRxTimestamp := ⟨0, 1, 1⟩ } }
  port := ⟨0, Nat.one_pos⟩
  slaveOffset := 1
  acquired := rfl
  valid := by decide
  undamped := Or.inl rfl

/-- **The integral of a nanosecond is −100000.** -/
theorem nanosecond_not_saturated :
    InBounds .zero ∧
      (rtcUpdateServo nanosecondUpdate.locals (nanosecondUpdate.system.withIntegral .zero)
        nanosecondUpdate.port).integral.toInt = -100000 ∧
      ¬ AtEach updateIntegral Saturates .zero [nanosecondUpdate] := by
  have hzero : InBounds .zero := ⟨by decide, by decide⟩
  refine ⟨hzero, by decide +kernel, fun h => ?_⟩
  have hexceeds := (saturates_iff hzero).mp h.1
  rw [Exceeds] at hexceeds
  exact absurd hexceeds (by decide)

theorem integral_saturates_twice :
    (AtEach updateIntegral Saturates .zero [nanosecondUpdate, nanosecondUpdate] ↔
        AtEach updateIntegral Exceeds .zero [nanosecondUpdate, nanosecondUpdate]) ∧
      Throughout updateIntegral InBounds .zero [nanosecondUpdate, nanosecondUpdate] :=
  integral_saturates_iff .zero ⟨by decide, by decide⟩ _

end Gptp
