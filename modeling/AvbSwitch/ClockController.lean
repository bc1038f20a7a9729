/-
What the control loop is for, and what it does.

A controller with two modes.  While it is engaged, an offset above the lower threshold is corrected
in proportion; otherwise nothing is.  An offset above the upper threshold engages it, and one that is
not above the lower threshold disengages it.  This is the clock of the program in every run: the
coefficients for the mode in which it is disengaged are zero, since nothing infers them.

* `correctIncrement_steers` — what one call of the loop makes of the mode and the increment;
* `clock_refines_controller` — so that in every run the clock is the controller;
* `small_offsets_uncorrected` — unless an offset is above the upper threshold, none is ever
  corrected;
* `derivative_follows_offset` — the derivative is the last offset, but for what it began with.
-/
import AvbSwitch.Hysteresis
import AvbSwitch.RtcClock
import AvbSwitch.Runs
import AvbSwitch.ServoStep

open Octets

namespace Gptp

/-! ### The controller -/

/-- The upper and the lower threshold. -/
def engageAbove : ℤ := 80000

def disengageUpTo : ℤ := 10000

/-- The correction of the increment for an offset. -/
def correction (engaged : Bool) (x : ℤ) : ℤ :=
  if engaged = true ∧ disengageUpTo < |x| then clamp (2 ^ 24) (-2 * x) else 0

/-- The nominal increment, the mode, and the increment that is written. -/
structure Controller where
  nominalIncrement : RtcIncrement
  engaged : Bool
  increment : ℤ
  deriving DecidableEq

/-- What the controller is told. -/
inductive Reading
  | start (nominalIncrement : RtcIncrement)
  /-- the clock was set, or there is a new grandmaster -/
  | reset
  /-- an offset, and half the rate ratio of the master, if it is known -/
  | offset (rate : Option ℕ) (x : ℤ)
  | nothing
  deriving DecidableEq

/-- The increment that is corrected. -/
def Controller.base (c : Controller) (rate : Option ℕ) : ℕ :=
  rate.getD c.nominalIncrement.word.toNat

def Controller.step (c : Controller) : Reading → Controller
  | .start nominalIncrement => ⟨nominalIncrement, c.engaged, nominalIncrement.value⟩
  | .reset => { c with increment := c.nominalIncrement.value }
  | .offset rate x =>
    { c with
      engaged := Hysteresis.next disengageUpTo engageAbove c.engaged |x|
      increment := (c.base rate + correction c.engaged x) % 2 ^ 31 }
  | .nothing => c

/-- The offset that a reading tells. -/
def Reading.magnitude : Reading → Option ℤ
  | .offset _ x => some |x|
  | _ => none

/-- The mode of a controller is that of a switch. -/
theorem foldl_engaged (c : Controller) (readings : List Reading) :
    (readings.foldl Controller.step c).engaged =
      Hysteresis.run disengageUpTo engageAbove c.engaged (readings.filterMap Reading.magnitude) := by
  induction readings generalizing c with
  | nil => rfl
  | cons r readings ih =>
    rw [List.foldl_cons, ih]
    cases r <;> rfl

/-! ### One call of the loop -/

variable {n : ℕ} {s : RtcServo} {w : Int32} {a : TdUint64} {v base : UInt32} {engaged : Bool}
  {locals : ServoLocals} {accumulator : TdUint64}

/-- `acquiring`, in one mode and the other. -/
def modeOf (engaged : Bool) : UInt32 := if engaged then ptpRtcAcquiring else ptpRtcAcquired

theorem far_iff : acquireThreshold < w ∨ w < -acquireThreshold ↔ disengageUpTo < |w.toInt| := by
  rw [Int32.lt_iff_toInt_lt, Int32.lt_iff_toInt_lt, lt_abs, disengageUpTo]
  have hneg : (-acquireThreshold).toInt = -10000 := rfl
  have hpos : acquireThreshold.toInt = 10000 := rfl
  omega

theorem beyond_iff : 8 * acquireThreshold < w ∨ w < 8 * -acquireThreshold ↔
    engageAbove < |w.toInt| := by
  rw [Int32.lt_iff_toInt_lt, Int32.lt_iff_toInt_lt, lt_abs, engageAbove]
  have hneg : (8 * -acquireThreshold).toInt = -80000 := rfl
  have hpos : (8 * acquireThreshold).toInt = 80000 := rfl
  omega

/-- Without a coefficient there is no contribution. -/
theorem contribution_zero : (contribution 0 a).toInt = 0 := by
  have hzero : (int32ToInt64 0).toInt = 0 := int32ToInt64_toInt
  have hproduct := (int64TimesInt64_exact_iff (a := int32ToInt64 0) (b := a)).mpr (by
    rw [hzero, MiddleSumFits, Limbs.middleSum]
    simp)
  rw [hzero, zero_mul] at hproduct
  rw [contribution, int64RShift_toInt (by decide) (by decide),
    toInt_of_emod hproduct (by decide) (by decide)]
  rfl

theorem int64Add_toInt_zero {b : TdUint64} (ha : a.toInt = 0) (hb : b.toInt = 0) :
    (int64Add a b).toInt = 0 := by
  have hsum := @int64Add_toNat a b
  rw [ha, hb] at hsum
  exact toInt_of_emod hsum (by decide) (by decide)

/-- The controller is disengaged: nothing is accumulated. -/
theorem control_disengaged (hcoefficients : s.coefficients = ⟨0, 0, 0⟩)
    (hmode : s.acquiring = modeOf false) :
    (control s w accumulator).1.acquiring = modeOf (decide (engageAbove < |w.toInt|)) ∧
      (control s w accumulator).2.toInt = 0 := by
  have hcontrol : s.acquiring = ptpRtcAcquired := hmode
  rw [control, if_pos hcontrol, hcoefficients]
  refine ⟨?_, int64Add_toInt_zero (int64Add_toInt_zero contribution_zero contribution_zero)
    contribution_zero⟩
  dsimp only
  by_cases hbeyond : engageAbove < |w.toInt|
  · rw [if_pos (beyond_iff.mpr hbeyond), decide_eq_true hbeyond]
    rfl
  · rw [if_neg (mt beyond_iff.mp hbeyond), decide_eq_false hbeyond]
    exact hmode

/-- **The mode and the accumulator** after the two parts of the loop. -/
theorem control_acquire (hcoefficients : s.coefficients = ⟨0, 0, 0⟩)
    (hmode : s.acquiring = modeOf engaged) :
    (control (acquire s w accumulator).1 w (acquire s w accumulator).2).1.acquiring =
        modeOf (Hysteresis.next disengageUpTo engageAbove engaged |w.toInt|) ∧
      (control (acquire s w accumulator).1 w (acquire s w accumulator).2).2.toInt =
        if engaged = true ∧ disengageUpTo < |w.toInt| then -2 * w.toInt else 0 := by
  have hle : disengageUpTo ≤ engageAbove := by decide
  cases engaged with
  | false =>
    have hacquire : acquire s w accumulator = (s, accumulator) := by
      rw [acquire, if_neg]
      rw [hmode]
      decide
    rw [hacquire, Hysteresis.next_false, if_neg (fun h => Bool.false_ne_true h.1)]
    exact control_disengaged hcoefficients hmode
  | true =>
    have hacquiring : s.acquiring = ptpRtcAcquiring := hmode
    rw [Hysteresis.next_true hle]
    by_cases hfar : disengageUpTo < |w.toInt|
    · -- the loop stays engaged, and the second part is passed over
      have hacquire : acquire s w accumulator = ({ s with integral := uint32ToUint64 0 },
          contribution acquireCoeffP (int32ToInt64 w)) := by
        rw [acquire, if_pos hacquiring, if_pos (far_iff.mpr hfar)]
        rfl
      have hcontrol : ¬ s.acquiring = ptpRtcAcquired := by
        rw [hacquiring]
        decide
      rw [hacquire, control, if_neg hcontrol, decide_eq_true hfar, if_pos ⟨rfl, hfar⟩]
      exact ⟨hmode, contribution_acquire⟩
    · have hacquire : acquire s w accumulator =
          ({ s with acquiring := ptpRtcAcquired, integral := uint32ToUint64 0 }, accumulator) := by
        rw [acquire, if_pos hacquiring, if_neg (mt far_iff.mp hfar)]
      have hbeyond : ¬ engageAbove < |w.toInt| := fun h => hfar (hle.trans_lt h)
      obtain ⟨hmode', haccumulator⟩ := @control_disengaged
        { s with acquiring := ptpRtcAcquired, integral := uint32ToUint64 0 } w accumulator
        hcoefficients rfl
      rw [decide_eq_false hbeyond] at hmode'
      rw [hacquire, decide_eq_false hfar, if_neg (fun h => hfar h.2)]
      exact ⟨hmode', haccumulator⟩

/-- A word is cut to the bits of an increment. -/
theorem splitIncrement_mod : (splitIncrement v).value = v.toNat % 2 ^ 31 := by
  have hshift : (v >>> rtcMantissaShift).toNat = v.toNat / 2 ^ 27 := shiftRight_toNat (by decide)
  have hlt := v.toNat_lt
  rw [RtcIncrement.value, splitIncrement]
  dsimp only
  rw [and_mantissaMask_toNat, and_fractionMask_toNat, hshift]
  omega

/-- The rate of the master, if it is known. -/
def RtcServo.rate (s : RtcServo) : Option ℕ :=
  if s.masterRateRatioValid then some (s.masterRateRatio.toNat / 2) else none

/-- The increment that is corrected, and the damping. -/
theorem startIncrement_spec : ∃ integral,
    (startIncrement s w).1 = { s with integral := integral } ∧
      (startIncrement s w).2.toNat = s.rate.getD s.nominalIncrement.word.toNat := by
  rw [startIncrement, RtcServo.rate]
  by_cases hvalid : s.masterRateRatioValid = true
  · rw [if_pos hvalid, if_pos hvalid]
    have hshift : (s.masterRateRatio >>> 1).toNat = s.masterRateRatio.toNat / 2 :=
      shiftRight_toNat (by decide)
    split
    · exact ⟨_, rfl, hshift⟩
    · exact ⟨s.integral, rfl, hshift⟩
  · rw [if_neg hvalid, if_neg hvalid]
    exact ⟨s.integral, rfl, rfl⟩

/-- The loop is in the state of the controller: it has no coefficients, and may change the
increment. -/
structure ControlledBy (c : Controller) (s : RtcServo) : Prop where
  coefficients : s.coefficients = ⟨0, 0, 0⟩
  allowed : s.rtcChangesAllowed = true
  mode : s.acquiring = modeOf c.engaged
  nominal : s.nominalIncrement = c.nominalIncrement
  increment : (s.currentIncrement.value : ℤ) = c.increment

variable {c : Controller}

/-- **One call of the loop** is one step of the controller. -/
theorem correctIncrement_steers (hs : ControlledBy c s) :
    ControlledBy (c.step (.offset s.rate w.toInt)) (correctIncrement locals s w) := by
  obtain ⟨integral, hstart, hbase⟩ := @startIncrement_spec s w
  obtain ⟨acquiring, integral', hacquire⟩ := @acquire_frame w (startIncrement s w).1
    locals.accumulator
  obtain ⟨acquiring', integral'', derivative, previousOffset, hcontrol⟩ := @control_frame w
    (acquire (startIncrement s w).1 w locals.accumulator).1
    (acquire (startIncrement s w).1 w locals.accumulator).2
  have hmode : (startIncrement s w).1.acquiring = modeOf c.engaged := by
    rw [hstart]
    exact hs.mode
  have hcoefficients : (startIncrement s w).1.coefficients = ⟨0, 0, 0⟩ := by
    rw [hstart]
    exact hs.coefficients
  obtain ⟨hmode', haccumulator⟩ := @control_acquire _ w c.engaged locals.accumulator hcoefficients
    hmode
  have hframe : (control (acquire (startIncrement s w).1 w locals.accumulator).1 w
      (acquire (startIncrement s w).1 w locals.accumulator).2).1 =
      { s with
        acquiring := acquiring'
        integral := integral''
        derivative := derivative
        previousOffset := previousOffset } := by
    rw [hcontrol, hacquire, hstart]
  have hallowed : (control (acquire (startIncrement s w).1 w locals.accumulator).1 w
      (acquire (startIncrement s w).1 w locals.accumulator).2).1.rtcChangesAllowed = true := by
    rw [hframe]
    exact hs.allowed
  rw [correctIncrement, if_pos hallowed]
  refine ⟨?_, hallowed, hmode', ?_, ?_⟩
  · show (control _ w _).1.coefficients = _
    rw [hframe]
    exact hs.coefficients
  · show (control _ w _).1.nominalIncrement = _
    rw [hframe]
    exact hs.nominal
  · -- the word wraps around, and is cut
    have hadjustment := @toUInt32_toNat (adjustmentOf (control
      (acquire (startIncrement s w).1 w locals.accumulator).1 w
      (acquire (startIncrement s w).1 w locals.accumulator).2).2)
    rw [adjustmentOf_toInt, haccumulator] at hadjustment
    have hcorrection : clamp (2 ^ 24)
        (if c.engaged = true ∧ disengageUpTo < |w.toInt| then -2 * w.toInt else 0) =
          correction c.engaged w.toInt := by
      rw [correction]
      split <;> rfl
    rw [hcorrection] at hadjustment
    show ((splitIncrement _).value : ℤ) = (c.base s.rate + correction c.engaged w.toInt) % 2 ^ 31
    rw [splitIncrement_mod, UInt32.toNat_add, hbase, Controller.base, ← hs.nominal]
    omega

/-! ### The readings -/

/-- The port that the control loop reads. -/
def SyncPort.servoPort (sync : SyncPort) : ServoPort := unwrittenServoPort.sharing sync

/-- What a port tells the controller when a Follow_Up message has been stored. -/
def SyncPort.reading (locals : ServoLocals) (sync : SyncPort) : Reading :=
  if sync.FarApart then .reset
  else
    .offset
      (if sync.neighborRateRatioValid then
        some ((cumulativeRateRatio locals sync.servoPort).toNat / 2)
      else none)
      sync.servoPort.peerOffset.toInt

/-- What happens to the clock, as the controller is told. -/
def ClockInput.reading (host : Host) : ClockInput n → Reading
  | .gptpSwInit nominalIncrement => .start nominalIncrement
  | .ackGrandmasterChange => .reset
  | .timerInterrupt _ => .nothing
  | .processRxFup s p locals rxBuffer =>
    if AcceptsFup s p rxBuffer then
      (storeFup host locals.toSyncLocals (s.withSource rxBuffer) p rxBuffer).elim .nothing fun u =>
        (u.sync p).reading locals.servo
    else .nothing

/-! ### Every run -/

variable {t t' : RtcClock n} {u : ServoSystem n} {p : Fin n} {pp : ServoPort} {sync : SyncPort}
  {host : Host} {clockLocals : ClockLocals} {bigEndian : Bool} {input : ClockInput n}

/-- With the peer delay mechanism every offset is valid. -/
theorem rtcUpdateServo_peerToPeer (h : u.delayMechanism = delayMechanismP2P) :
    rtcUpdateServo locals u p =
      { u with toRtcServo :=
        { correctIncrement locals (u.rated locals (u.ports p)) (u.ports p).peerOffset with
          rtcLastOffsetValid := true
          rtcLastOffset := (u.ports p).peerOffset } } := by
  have hmeasured : measureOffset locals u p =
      ({ u with toRtcServo := u.rated locals (u.ports p) }, some (u.ports p).peerOffset) := by
    have hendToEnd : ¬ u.delayMechanism = delayMechanismE2E := by
      rw [h]
      decide
    rw [measureOffset, if_neg hendToEnd]
  rw [rtcUpdateServo, hmeasured]
  rfl

theorem rated_controlled (hs : ControlledBy c s) : ControlledBy c (s.rated locals pp) := by
  rw [RtcServo.rated]
  split
  · exact ⟨hs.coefficients, hs.allowed, hs.mode, hs.nominal, hs.increment⟩
  · exact ⟨hs.coefficients, hs.allowed, hs.mode, hs.nominal, hs.increment⟩

theorem rated_rate : (s.rated locals pp).rate =
    if pp.neighborRateRatioValid then some ((cumulativeRateRatio locals pp).toNat / 2)
    else none := by
  rw [RtcServo.rated]
  split
  · rfl
  · rfl

/-- The clock is in the state of the controller, with the peer delay mechanism. -/
structure Steered (c : Controller) (t : RtcClock n) : Prop where
  controlled : ControlledBy c t.toRtcServo
  peerToPeer : t.delayMechanism = delayMechanismP2P

/-- An increment is set. -/
theorem Steered.setIncrement {increment : RtcIncrement} (hcoefficients : t.coefficients = ⟨0, 0, 0⟩)
    (hallowed : t.rtcChangesAllowed = true) (hmode : t.acquiring = modeOf c.engaged)
    (hnominal : t.nominalIncrement = c.nominalIncrement)
    (hpeer : t.delayMechanism = delayMechanismP2P) :
    Steered { c with increment := increment.value } (t.setIncrement increment) where
  controlled := ⟨hcoefficients, hallowed, hmode, hnominal, rfl⟩
  peerToPeer := hpeer

/-- The nominal increment is set again. -/
theorem Steered.reset (h : Steered c t) :
    Steered (c.step .reset) (t.setIncrement t.nominalIncrement) := by
  rw [h.controlled.nominal]
  exact Steered.setIncrement h.controlled.coefficients h.controlled.allowed h.controlled.mode
    h.controlled.nominal h.peerToPeer

/-- **A Follow_Up message** tells the controller what its port reads. -/
theorem Steered.steer (h : Steered c t) :
    Steered (c.step (sync.reading clockLocals.servo)) (t.steer bigEndian clockLocals p sync) := by
  have hport : Steered c
      { t with toServoSystem := t.setPort p ((t.ports p).sharing sync) } :=
    ⟨h.controlled, h.peerToPeer⟩
  rw [RtcClock.steer, SyncPort.reading]
  dsimp only
  by_cases hfar : sync.FarApart
  · rw [if_pos hfar, if_pos hfar, if_pos hport.controlled.allowed]
    exact ⟨hport.reset.controlled, hport.peerToPeer⟩
  · rw [if_neg hfar, if_neg hfar, rtcUpdateServo_peerToPeer hport.peerToPeer]
    have hself : (t.setPort p ((t.ports p).sharing sync)).ports p = (t.ports p).sharing sync := by
      simp only [ServoSystem.setPort, Function.update_self]
    have hcorrected : ControlledBy _ (correctIncrement clockLocals.servo
        (t.rated clockLocals.servo ((t.ports p).sharing sync))
        ((t.ports p).sharing sync).peerOffset) :=
      correctIncrement_steers (rated_controlled hport.controlled)
    rw [rated_rate] at hcorrected
    rw [hself]
    refine ⟨?_, hport.peerToPeer⟩
    exact ⟨hcorrected.coefficients, hcorrected.allowed, hcorrected.mode, hcorrected.nominal,
      hcorrected.increment⟩

/-- Initialisation leaves the mode alone. -/
theorem gptpSwInit_steered {nominalIncrement : RtcIncrement}
    (hmode : t.acquiring = modeOf c.engaged) :
    Steered (c.step (.start nominalIncrement)) (t.gptpSwInit nominalIncrement) := by
  rw [RtcClock.gptpSwInit]
  exact @Steered.setIncrement n ⟨nominalIncrement, c.engaged, 0⟩ _ _ rfl rfl hmode rfl rfl

/-- **What happens to the clock** is a step of the controller. -/
theorem Steered.step (h : Steered c t) (hstep : clockStep host t input = some t') :
    Steered (c.step (input.reading host)) t' := by
  cases input with
  | gptpSwInit nominalIncrement =>
    obtain rfl := Option.some_inj.mp hstep
    exact gptpSwInit_steered h.controlled.mode
  | ackGrandmasterChange =>
    obtain rfl := Option.some_inj.mp hstep
    have hallowed : Steered c { t with rtcChangesAllowed := true } :=
      ⟨⟨h.controlled.coefficients, rfl, h.controlled.mode, h.controlled.nominal,
        h.controlled.increment⟩, h.peerToPeer⟩
    exact hallowed.reset
  | timerInterrupt timeSinceBoot =>
    obtain rfl := Option.some_inj.mp hstep
    exact ⟨h.controlled, h.peerToPeer⟩
  | processRxFup s p locals m =>
    obtain ⟨⟨v, u⟩, hu, rfl⟩ := Option.map_eq_some_iff.mp hstep
    rw [fupClock] at hu
    rw [ClockInput.reading]
    dsimp only
    by_cases haccepts : AcceptsFup s p m
    · rw [if_pos haccepts] at hu ⊢
      obtain ⟨w, hw, heq⟩ := Option.map_eq_some_iff.mp hu
      obtain ⟨rfl, rfl⟩ := Prod.mk.inj heq
      rw [hw, Option.elim_some]
      exact h.steer
    · rw [if_neg haccepts] at hu ⊢
      obtain ⟨-, rfl⟩ := Prod.mk.inj (Option.some_inj.mp hu)
      exact h

theorem Steered.run {inputs : List (ClockInput n)} (h : Steered c t)
    (hrun : Runs.run (clockStep host) t inputs = some t') :
    Steered ((inputs.map (ClockInput.reading host)).foldl Controller.step c) t' := by
  induction inputs generalizing c t with
  | nil =>
    obtain rfl := Option.some_inj.mp hrun
    exact h
  | cons input inputs ih =>
    obtain ⟨v, hv, hrest⟩ := Runs.run_cons_eq_some.mp hrun
    exact ih (h.step hv) hrest

/-- What `gptp_sw_init` makes of the memory. -/
theorem staticMemory_steered {timeSinceBoot : Vector UInt8 4} {nominalIncrement : RtcIncrement} :
    Steered ⟨nominalIncrement, false, nominalIncrement.value⟩
      ((RtcClock.staticMemory timeSinceBoot : RtcClock n).gptpSwInit nominalIncrement) :=
  @gptpSwInit_steered n ⟨nominalIncrement, false, 0⟩ _ nominalIncrement rfl

/-- **The clock is the controller** in every run, from one that is disengaged. -/
theorem clock_refines_controller (host : Host) (timeSinceBoot : Vector UInt8 4)
    (nominalIncrement : RtcIncrement) (inputs : List (ClockInput n))
    (hrun : Runs.run (clockStep host) (RtcClock.staticMemory timeSinceBoot)
      (.gptpSwInit nominalIncrement :: inputs) = some t') :
    ControlledBy ((inputs.map (ClockInput.reading host)).foldl Controller.step
      ⟨nominalIncrement, false, nominalIncrement.value⟩) t'.toRtcServo := by
  obtain ⟨u, hu, hrest⟩ := Runs.run_cons_eq_some.mp hrun
  obtain rfl := Option.some_inj.mp hu
  exact (staticMemory_steered.run hrest).controlled

/-- **Small offsets stay.**  As long as no offset before was above the upper threshold, none is
corrected: the increment is the nominal one, or half the rate ratio of the master. -/
theorem small_offsets_uncorrected (host : Host) (timeSinceBoot : Vector UInt8 4)
    (nominalIncrement : RtcIncrement) (inputs : List (ClockInput n)) (rate : Option ℕ) (x : ℤ)
    (hrun : Runs.run (clockStep host) (RtcClock.staticMemory timeSinceBoot)
      (.gptpSwInit nominalIncrement :: (inputs ++ [input])) = some t')
    (hsmall : ∀ i ∈ inputs, ∀ y ∈ (i.reading host).magnitude, y ≤ engageAbove)
    (hlast : input.reading host = .offset rate x) :
    t'.currentIncrement.value = rate.getD t'.nominalIncrement.word.toNat % 2 ^ 31 := by
  obtain ⟨u, hu, hrest⟩ := Runs.run_cons_eq_some.mp hrun
  obtain rfl := Option.some_inj.mp hu
  have hcontrolled := (staticMemory_steered.run hrest).controlled
  rw [List.map_append, List.foldl_append, List.map_singleton, List.foldl_cons, List.foldl_nil,
    hlast] at hcontrolled
  have hengaged : ((inputs.map (ClockInput.reading host)).foldl Controller.step
      ⟨nominalIncrement, false, nominalIncrement.value⟩).engaged = false := by
    rw [foldl_engaged]
    refine Hysteresis.run_eq_false_of_le (by decide) fun y hy => ?_
    obtain ⟨r, hr, hy⟩ := List.mem_filterMap.mp hy
    obtain ⟨i, hi, rfl⟩ := List.mem_map.mp hr
    exact hsmall i hi y hy
  have hincrement := hcontrolled.increment
  have hnominal := hcontrolled.nominal
  rw [Controller.step] at hincrement hnominal
  dsimp only at hincrement hnominal
  rw [hengaged, correction, if_neg (fun h => Bool.false_ne_true h.1), Controller.base, ← hnominal]
    at hincrement
  omega

/-! ### The derivative -/

/-- What the derivative has more than the last offset. -/
def RtcServo.lead (s : RtcServo) : Int32 := s.derivative - s.previousOffset

/-- The differences that are added up cancel, all but the last offset. -/
theorem control_lead : (control s w accumulator).1.lead = s.lead := by
  rw [control]
  split
  · have hsum : s.derivative + (w - s.previousOffset) - w = s.derivative - s.previousOffset := by
      grind
    exact hsum
  · rfl

theorem setRtcIncrement_lead {increment : RtcIncrement} :
    (setRtcIncrement s increment).lead = s.lead := rfl

theorem correctIncrement_lead : (correctIncrement locals s w).lead = s.lead := by
  obtain ⟨integral, hstart, -⟩ := @startIncrement_spec s w
  obtain ⟨acquiring, integral', hacquire⟩ := @acquire_frame w (startIncrement s w).1
    locals.accumulator
  have hacquired : (acquire (startIncrement s w).1 w locals.accumulator).1.lead = s.lead := by
    rw [hacquire, hstart]
    rfl
  have hcontrolled := @control_lead (acquire (startIncrement s w).1 w locals.accumulator).1 w
    (acquire (startIncrement s w).1 w locals.accumulator).2
  rw [← hacquired, ← hcontrolled, correctIncrement]
  split
  · exact setRtcIncrement_lead
  · exact Eq.refl _

/-- Measuring the offset writes nothing of the loop but the rate ratio of the master. -/
theorem measureOffset_frame : ∃ masterRateRatio masterRateRatioValid,
    (measureOffset locals u p).1.toRtcServo =
      { u.toRtcServo with
        masterRateRatio := masterRateRatio
        masterRateRatioValid := masterRateRatioValid } := by
  rw [measureOffset]
  by_cases hmechanism : u.delayMechanism = delayMechanismE2E
  · rw [if_pos hmechanism]
    split_ifs
    · exact ⟨_, _, rfl⟩
    · exact ⟨u.masterRateRatio, u.masterRateRatioValid, rfl⟩
    · exact ⟨u.masterRateRatio, u.masterRateRatioValid, rfl⟩
  · rw [if_neg hmechanism, RtcServo.rated]
    split
    · exact ⟨_, _, rfl⟩
    · exact ⟨_, _, rfl⟩

theorem measureOffset_lead : (measureOffset locals u p).1.lead = u.lead := by
  obtain ⟨masterRateRatio, masterRateRatioValid, hframe⟩ := @measureOffset_frame n locals u p
  rw [hframe]
  rfl

theorem lead_withLast {valid : Bool} :
    ({ s with rtcLastOffsetValid := valid, rtcLastOffset := w } : RtcServo).lead = s.lead := rfl

theorem rtcUpdateServo_lead : (rtcUpdateServo locals u p).lead = u.lead := by
  rw [rtcUpdateServo]
  dsimp only
  rw [lead_withLast, ← @measureOffset_lead n locals u p]
  split
  · exact correctIncrement_lead
  · rfl

theorem setIncrement_lead {increment : RtcIncrement} : (t.setIncrement increment).lead = t.lead := by
  rw [RtcClock.setIncrement]
  exact setRtcIncrement_lead

theorem steer_lead : (t.steer bigEndian clockLocals p sync).lead = t.lead := by
  rw [RtcClock.steer]
  dsimp only
  split_ifs
  · rw [RtcClock.setTimeAdjusted]
    dsimp only
    rw [setIncrement_lead]
    rfl
  · rfl
  · rw [rtcUpdateServo_lead]
    rfl

/-- What happens to the clock keeps what the derivative has more than the last offset. -/
theorem clockStep_lead (hstep : clockStep host t input = some t') : t'.lead = t.lead := by
  cases input with
  | gptpSwInit nominalIncrement =>
    obtain rfl := Option.some_inj.mp hstep
    rw [RtcClock.gptpSwInit, setIncrement_lead]
    rfl
  | ackGrandmasterChange =>
    obtain rfl := Option.some_inj.mp hstep
    rw [RtcClock.ackGrandmasterChange, setIncrement_lead]
    rfl
  | timerInterrupt timeSinceBoot =>
    obtain rfl := Option.some_inj.mp hstep
    rfl
  | processRxFup s p locals m =>
    obtain ⟨⟨v, u⟩, hu, rfl⟩ := Option.map_eq_some_iff.mp hstep
    rw [fupClock] at hu
    dsimp only
    by_cases haccepts : AcceptsFup s p m
    · rw [if_pos haccepts] at hu
      obtain ⟨w, -, heq⟩ := Option.map_eq_some_iff.mp hu
      obtain ⟨-, rfl⟩ := Prod.mk.inj heq
      exact steer_lead
    · rw [if_neg haccepts] at hu
      obtain ⟨-, rfl⟩ := Prod.mk.inj (Option.some_inj.mp hu)
      rfl

/-- **The derivative is the last offset**, in every run and with any coefficients, but for what it
was ahead of it at the beginning: the differences that are added up cancel. -/
theorem derivative_follows_offset (host : Host) (t : RtcClock n) (inputs : List (ClockInput n))
    (hrun : Runs.run (clockStep host) t inputs = some t') :
    t'.derivative = t'.previousOffset + (t.derivative - t.previousOffset) := by
  have hlead : t'.lead = t.lead :=
    Runs.run_invariant (I := fun u : RtcClock n => u.lead = t.lead)
      (fun hu hstep => (clockStep_lead hstep).trans hu) rfl hrun
  rw [RtcServo.lead, RtcServo.lead] at hlead
  rw [← hlead]
  grind

/-! ### Three offsets -/

/-- A slave port that has received a Sync message so many nanoseconds late. -/
def lateSystem (nanoseconds : Int32) : SyncSystem 1 :=
  let s := (GptpModule.staticMemory ⟨0, 0⟩ (fun _ => ⟨0, 0⟩) fun _ => 0 : GptpModule 1).system
  { s with
    gptp := { s.gptp with ports := fun i => { s.gptp.ports i with selectedRole := .slave } }
    sync := fun i =>
      { s.sync i with
        syncRxTimestampTemp := ⟨0, 0, nanoseconds⟩
        syncSequenceIdValid := true
        waitingForFup := true } }

/-- The Follow_Up message comes in. -/
def lateFup (nanoseconds : Int32) : ClockInput 1 :=
  .processRxFup (lateSystem nanoseconds) ⟨0, Nat.one_pos⟩
    { correctionField := ⟨0, 0, 0⟩
      syncTxTimestamp := ⟨0, 0, 0⟩
      propDelayTime := ⟨0, 0, 0⟩
      behindPropDelay := Vector.replicate 4 0
      cumulativeScaledRateOffsetPtr := 0
      servo := ⟨.zero, .zero⟩
      timeNow := ⟨0, 0, 0⟩ }
    fun _ => 0

/-- A clock of eight nanoseconds that was initialised and then received messages. -/
def lateRun (inputs : List (ClockInput 1)) : Option (RtcClock 1) :=
  Runs.run (clockStep bigEndianHost) (RtcClock.staticMemory (Vector.replicate 4 0))
    (.gptpSwInit ⟨8, 0⟩ :: inputs)

/-- Fifty microseconds, ninety, and fifty again: the third message is the only one that is
corrected. -/
theorem clock_refines_controller_late : ∃ t',
    lateRun [lateFup 50000, lateFup 90000, lateFup 50000] = some t' ∧
      ControlledBy ⟨⟨8, 0⟩, true, 8 * 2 ^ 27 - 100000⟩ t'.toRtcServo := by
  have hsome : (lateRun [lateFup 50000, lateFup 90000, lateFup 50000]).isSome = true := by
    decide +kernel
  have hreadings : ([lateFup 50000, lateFup 90000, lateFup 50000].map
      (ClockInput.reading bigEndianHost)).foldl Controller.step
        ⟨⟨8, 0⟩, false, RtcIncrement.value ⟨8, 0⟩⟩ = ⟨⟨8, 0⟩, true, 8 * 2 ^ 27 - 100000⟩ := by
    decide +kernel
  obtain ⟨t', ht'⟩ := Option.isSome_iff_exists.mp hsome
  exact ⟨t', ht', hreadings ▸ clock_refines_controller bigEndianHost _ ⟨8, 0⟩ _ ht'⟩

/-- Not even the message that engages the controller is corrected. -/
theorem small_offsets_uncorrected_late : ∃ t', lateRun [lateFup 50000, lateFup 90000] = some t' ∧
    t'.currentIncrement.value = t'.nominalIncrement.word.toNat % 2 ^ 31 := by
  have hsome : (lateRun [lateFup 50000, lateFup 90000]).isSome = true := by decide +kernel
  have hfirst : (lateFup 50000).reading bigEndianHost = .offset none 50000 := by decide +kernel
  have hlast : (lateFup 90000).reading bigEndianHost = .offset none 90000 := by decide +kernel
  obtain ⟨t', ht'⟩ := Option.isSome_iff_exists.mp hsome
  refine ⟨t', ht', small_offsets_uncorrected bigEndianHost _ ⟨8, 0⟩ [lateFup 50000] none 90000 ht'
    (fun i hi y hy => ?_) hlast⟩
  rw [List.mem_singleton.mp hi, hfirst] at hy
  obtain rfl := Option.some_inj.mp hy
  decide

theorem derivative_follows_offset_late : ∃ t',
    lateRun [lateFup 50000, lateFup 90000] = some t' ∧ t'.derivative = t'.previousOffset := by
  have hsome : (lateRun [lateFup 50000, lateFup 90000]).isSome = true := by decide +kernel
  obtain ⟨t', ht'⟩ := Option.isSome_iff_exists.mp hsome
  have hderivative := derivative_follows_offset bigEndianHost _ _ ht'
  have hzero : (RtcClock.staticMemory (Vector.replicate 4 0) : RtcClock 1).derivative -
      (RtcClock.staticMemory (Vector.replicate 4 0) : RtcClock 1).previousOffset = 0 := rfl
  rw [hzero, Int32.add_zero] at hderivative
  exact ⟨t', ht', hderivative⟩

end Gptp
