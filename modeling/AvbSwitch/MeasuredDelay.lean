/-
What the delay is that a port measures, and what `asCapable` says about it.

The delay is computed in two words from differences of which the upper seconds are left out and
the sign is only in the nanoseconds, by products that lose a carry, and is cut to one word at
the end.  So it is the delay that was to be computed, with an error, modulo 2^32.

* `neighborPropDelay_eq` — what `computePropTime` computes;
* `asCapable_sound_iff` — a port becomes capable with a delay that is out of bounds exactly if
  the remainder is within them.
-/
import AvbSwitch.EmulatedArithmetic
import AvbSwitch.PdelaySteps
import AvbSwitch.PdelayTermination
import AvbSwitch.TimestampArithmetic

open Octets

namespace Gptp

variable {host : Host} {clock : Clock} {t : PdelaySystem} {p : UInt8} {pp : PdelayPort}
  {a b time : PtpTime}

/-! ### A difference in nanoseconds -/

/-- How often 2^32 nanoseconds are added to a difference: if its nanoseconds have a sign, for the
upper seconds that are left out, and if a carry of the product is lost. -/
def excess (d : ℤ) : ℤ :=
  (if d.tmod (10 ^ 9) < 0 then 1 else 0) - d.tdiv (10 ^ 9) / 2 ^ 32 * 10 ^ 9 -
    2 ^ 16 * lostCarry (d.tdiv (10 ^ 9) % 2 ^ 32).toNat (10 ^ 9)

/-- **A difference in nanoseconds**, as it is computed. -/
theorem nanosecondsOf_toNat (h : time.Canonical) :
    ((nanosecondsOf time).toNat : ℤ) = (time.value + 2 ^ 32 * excess time.value) % 2 ^ 64 := by
  obtain ⟨hseconds, hnanoseconds⟩ := h.fields
  obtain ⟨hns, hns'⟩ := h.fraction
  have hlower := time.secondsLower.toNat_lt
  have hlow : time.secondsLower.toNat = time.seconds % 2 ^ 32 := by
    rw [PtpTime.seconds]
    omega
  have hlow' : (time.seconds % 2 ^ 32).toNat = time.secondsLower.toNat := by omega
  have hleft : (time.secondsLower.toNat : ℤ) = time.seconds - 2 ^ 32 * (time.seconds / 2 ^ 32) :=
    hlow.trans (Int.emod_def _ _)
  have hproduct : ((uint64TimesUint32 (uint32ToUint64 time.secondsLower) 1000000000).toNat : ℤ) =
      (time.secondsLower.toNat * 10 ^ 9 - 2 ^ 48 * lostCarry time.secondsLower.toNat (10 ^ 9)) %
        2 ^ 64 := by
    rw [uint64TimesUint32_toNat, uint32ToUint64_toNat]
    rfl
  -- the word of the nanoseconds has 2^32 added to it if they have a sign
  have hsign : time.nanoseconds.toInt % 2 ^ 32 =
      time.nanoseconds.toInt + 2 ^ 32 * if time.nanoseconds.toInt < 0 then 1 else 0 := by
    split <;> omega
  have hvalue : time.value = time.seconds * 10 ^ 9 + time.nanoseconds.toInt := rfl
  rw [nanosecondsOf, uint64AddUint32_toNat, Int.natCast_mod, Nat.cast_add,
    show ((2 ^ 64 : ℕ) : ℤ) = 2 ^ 64 from rfl, hproduct, toUInt32_toNat, hsign,
    Int.emod_add_emod, excess, ← hseconds, ← hnanoseconds, hlow', hleft, hvalue]
  congr 1
  ring

/-! ### The delay -/

/-- Forty-eight bits of seconds, and less than a second of nanoseconds. -/
structure PtpTime.InRange (time : PtpTime) : Prop where
  upper_nonneg : 0 ≤ time.secondsUpper.toInt
  upper_lt : time.secondsUpper.toInt < 2 ^ 16
  nanoseconds_nonneg : 0 ≤ time.nanoseconds.toInt
  nanoseconds_lt : time.nanoseconds.toInt < 10 ^ 9

/-- The four timestamps that the delay is computed from. -/
structure TimestampsInRange (pp : PdelayPort) : Prop where
  treq1 : pp.pdelayReqTxTimestamp.InRange
  trsp2 : pp.pdelayReqRxTimestamp.time.InRange
  trsp3 : pp.pdelayRespTxTimestamp.time.InRange
  treq4 : pp.pdelayRespRxTimestamp.time.InRange

/-- Treq4 − Treq1 in nanoseconds. -/
def PdelayPort.requesterTime (pp : PdelayPort) : ℤ :=
  pp.pdelayRespRxTimestamp.time.value - pp.pdelayReqTxTimestamp.value

/-- Trsp3 − Trsp2 in nanoseconds. -/
def PdelayPort.responderTime (pp : PdelayPort) : ℤ :=
  pp.pdelayRespTxTimestamp.time.value - pp.pdelayReqRxTimestamp.time.value

/-- The delay that is to be computed, rounded down. -/
def PdelayPort.exactDelay (pp : PdelayPort) : ℤ :=
  (pp.requesterTime * pp.neighborRateRatio.toNat / 2 ^ 31 - pp.responderTime) / 2

/-- By how much the computation is off. -/
def PdelayPort.delayError (pp : PdelayPort) : ℤ :=
  excess pp.requesterTime * pp.neighborRateRatio.toNat - 2 ^ 31 * excess pp.responderTime -
    2 ^ 16 * lostCarry (pp.requesterTime % 2 ^ 32).toNat pp.neighborRateRatio.toNat

instance (time : PtpTime) : Decidable time.InRange :=
  decidable_of_iff (0 ≤ time.secondsUpper.toInt ∧ time.secondsUpper.toInt < 2 ^ 16 ∧
    0 ≤ time.nanoseconds.toInt ∧ time.nanoseconds.toInt < 10 ^ 9)
    ⟨fun ⟨h₁, h₂, h₃, h₄⟩ => ⟨h₁, h₂, h₃, h₄⟩, fun ⟨h₁, h₂, h₃, h₄⟩ => ⟨h₁, h₂, h₃, h₄⟩⟩

theorem PtpTime.InRange.difference (ha : a.InRange) (hb : b.InRange) :
    (timestampDifference a b).value = a.value - b.value ∧ (timestampDifference a b).Canonical := by
  obtain ⟨hua, hua', hna, hna'⟩ := ha
  obtain ⟨hub, hub', hnb, hnb'⟩ := hb
  have hla := a.secondsLower.toNat_lt
  have hlb := b.secondsLower.toNat_lt
  refine timestampDifference_spec ⟨?_, hna'⟩ ⟨?_, hnb'⟩ ?_ ?_ ?_ ?_
  · omega
  · omega
  all_goals
    rw [PtpTime.seconds]
    omega

theorem PtpTime.InRange.nanosecondsOf_difference {d : ℤ} (ha : a.InRange) (hb : b.InRange)
    (hd : a.value - b.value = d) :
    ((nanosecondsOf (timestampDifference a b)).toNat : ℤ) = (d + 2 ^ 32 * excess d) % 2 ^ 64 := by
  obtain ⟨hvalue, hcanonical⟩ := ha.difference hb
  rw [nanosecondsOf_toNat hcanonical, hvalue, hd]

/-- The words above the one that is left do not matter. -/
theorem delay_emod {product quotient difference y : ℕ} {x : ℤ} (hproduct : (product : ℤ) = x % 2 ^ 64)
    (hquotient : quotient = product / 2 ^ 31)
    (hdifference : (difference : ℤ) = ((quotient : ℤ) - y) % 2 ^ 64) :
    ((difference / 2 % 2 ^ 32 : ℕ) : ℤ) = (x / 2 ^ 31 - y) / 2 % 2 ^ 32 := by
  omega

/-- What is left in one word of the product, shifted, less the second number, and halved. -/
theorem delayWord_toNat {x y : TdUint64} {r : UInt32} :
    ((uint64RShift (int64Subtract (uint64RShift (uint64TimesUint32 x r) 31) y) 1).lowPart.toNat : ℤ) =
      (((x.toNat : ℤ) * r.toNat - 2 ^ 48 * lostCarry (x.toNat % 2 ^ 32) r.toNat) / 2 ^ 31 -
        y.toNat) / 2 % 2 ^ 32 := by
  rw [TdUint64.lowPart_toNat, uint64RShift_toNat (by decide), ← TdUint64.lowPart_toNat]
  exact delay_emod uint64TimesUint32_toNat (uint64RShift_toNat (by decide)) int64Subtract_toNat

/-- **The delay that is computed**: the exact one with the error, modulo 2^32. -/
theorem neighborPropDelay_eq (hvalid : pp.neighborRateRatioValid = true)
    (hrange : TimestampsInRange pp) :
    ((computePropTime pp).neighborPropDelay.toNat : ℤ) =
      (pp.exactDelay + pp.delayError) % 2 ^ 32 := by
  have hresponder := hrange.trsp3.nanosecondsOf_difference hrange.trsp2
    (show _ = pp.responderTime from rfl)
  have hrequester := hrange.treq4.nanosecondsOf_difference hrange.treq1
    (show _ = pp.requesterTime from rfl)
  have hlow : (nanosecondsOf (timestampDifference pp.pdelayRespRxTimestamp.time
      pp.pdelayReqTxTimestamp)).toNat % 2 ^ 32 = (pp.requesterTime % 2 ^ 32).toNat := by omega
  -- the product with what is left out of the requester's time is a multiple of 2^32
  have hwrap := Int.emod_add_mul_ediv (pp.requesterTime + 2 ^ 32 * excess pp.requesterTime) (2 ^ 64)
  rw [← hrequester] at hwrap
  have hproduct : ((nanosecondsOf (timestampDifference pp.pdelayRespRxTimestamp.time
      pp.pdelayReqTxTimestamp)).toNat : ℤ) * pp.neighborRateRatio.toNat =
        pp.requesterTime * pp.neighborRateRatio.toNat +
          2 ^ 32 * (excess pp.requesterTime * pp.neighborRateRatio.toNat) -
          2 ^ 64 * ((pp.requesterTime + 2 ^ 32 * excess pp.requesterTime) / 2 ^ 64 *
            pp.neighborRateRatio.toNat) := by
    rw [← eq_sub_iff_add_eq] at hwrap
    rw [hwrap]
    ring
  rw [computePropTime, if_pos hvalid]
  dsimp only
  rw [delayWord_toNat, hlow, hproduct, hresponder, PdelayPort.exactDelay, PdelayPort.delayError]
  omega

/-! ### Ports that become capable -/

/-- The port when the follow-up has been read. -/
def PdelayPort.readFollowUp (host : Host) (pp : PdelayPort) : PdelayPort :=
  { pp with
    mdPdelayReqState := .waitingForPdelayIntervalTimer
    rcvdPdelayRespFollowUp := false
    pdelayRespTxTimestamp :=
      { time := getTimestamp host.bigEndian pp.rcvdPdelayRespFollowUpPtr.octets 34
          pp.pdelayRespTxTimestamp.time
        frame := pp.rcvdPdelayRespFollowUpPtr } }

/-- The port when its delay is computed, with the rate ratio that it is computed with. -/
def PdelayPort.atDelay (host : Host) (pp : PdelayPort) : PdelayPort :=
  if pp.computeNeighborRateRatio then computePdelayRateRatio (pp.readFollowUp host)
  else pp.readFollowUp host

/-- The response stems from another clock than the one that is the grandmaster of the system. -/
def FromOtherClock (t : PdelaySystem) (p : UInt8) : Prop :=
  (getSourcePortId (t.ports p).rcvdPdelayRespPtr.octets).clockIdentity ≠ t.grandmasterIdentity

/-- The exact delay is within the bounds that `asCapable` stands for. -/
def DelayInBounds (host : Host) (pp : PdelayPort) : Prop :=
  0 ≤ (pp.atDelay host).exactDelay ∧
    (pp.atDelay host).exactDelay ≤ pp.neighborPropDelayThresh.toNat

/-- The exact delay is out of bounds, and the remainder that is compared is not. -/
def Misjudged (host : Host) (pp : PdelayPort) : Prop :=
  ¬ DelayInBounds host pp ∧
    ((pp.atDelay host).exactDelay + (pp.atDelay host).delayError) % 2 ^ 32 ≤
      pp.neighborPropDelayThresh.toNat

/-- The rate ratio is computed from the timestamps, and changes nothing that is compared. -/
theorem PdelayPort.atDelay_frame :
    (pp.atDelay host).computeNeighborPropDelay = pp.computeNeighborPropDelay ∧
      (pp.atDelay host).neighborPropDelayThresh = pp.neighborPropDelayThresh ∧
      (pp.atDelay host).rcvdPdelayRespPtr = pp.rcvdPdelayRespPtr := by
  rw [PdelayPort.atDelay]
  split
  · obtain ⟨received, txI, rxI, ratio, valid, hratio⟩ :=
      @computePdelayRateRatio_frame (pp.readFollowUp host)
    rw [hratio]
    exact ⟨rfl, rfl, rfl⟩
  · exact ⟨rfl, rfl, rfl⟩

theorem computeDelays_readFollowUp (hcompute : pp.computeNeighborPropDelay = true) :
    computeDelays (pp.readFollowUp host) = computePropTime (pp.atDelay host) := by
  rw [computeDelays]
  show (if (pp.atDelay host).computeNeighborPropDelay = true then computePropTime (pp.atDelay host)
    else pp.atDelay host) = _
  rw [PdelayPort.atDelay_frame.1, if_pos hcompute]

/-- When a port becomes capable. -/
theorem asCapable_iff (hcompute : (t.ports p).computeNeighborPropDelay = true) :
    ((mdPdelayReqSetState host clock t p .waitingForPdelayIntervalTimer).ports p).asCapable = true ↔
      (computePropTime ((t.ports p).atDelay host)).neighborPropDelay ≤
          (t.ports p).neighborPropDelayThresh ∧
        FromOtherClock t p ∧ ((t.ports p).atDelay host).neighborRateRatioValid = true := by
  obtain ⟨-, hthresh, hptr⟩ := @PdelayPort.atDelay_frame host (t.ports p)
  obtain ⟨delay, hdelay⟩ := @computePropTime_frame ((t.ports p).atDelay host)
  have hport : ((mdPdelayReqSetState host clock t p .waitingForPdelayIntervalTimer).ports p).asCapable =
      (decide ((computeDelays ((t.ports p).readFollowUp host)).neighborPropDelay ≤
          (computeDelays ((t.ports p).readFollowUp host)).neighborPropDelayThresh) &&
        decide (compareClockIdentity (getSourcePortId (computeDelays
          ((t.ports p).readFollowUp host)).rcvdPdelayRespPtr.octets).clockIdentity
            t.grandmasterIdentity ≠ .eq) &&
        (computeDelays ((t.ports p).readFollowUp host)).neighborRateRatioValid) := by
    simp only [mdPdelayReqSetState, PdelaySystem.modify_self]
    rfl
  rw [hport, computeDelays_readFollowUp hcompute, hdelay, Bool.and_eq_true, Bool.and_eq_true,
    decide_eq_true_eq, decide_eq_true_eq, and_assoc]
  dsimp only
  rw [hthresh, hptr, FromOtherClock, Ne, compareClockIdentity_eq_iff]

/-- **A port that becomes capable has a delay within the bounds** exactly if it is not misjudged,
or not capable for another reason. -/
theorem asCapable_sound_iff (host : Host) (clock : Clock) (t : PdelaySystem) (p : UInt8)
    (hcompute : (t.ports p).computeNeighborPropDelay = true)
    (hrange : TimestampsInRange ((t.ports p).atDelay host)) :
    (((mdPdelayReqSetState host clock t p .waitingForPdelayIntervalTimer).ports p).asCapable = true →
        DelayInBounds host (t.ports p)) ↔
      ¬ (FromOtherClock t p ∧ ((t.ports p).atDelay host).neighborRateRatioValid = true ∧
        Misjudged host (t.ports p)) := by
  rw [asCapable_iff hcompute]
  have hcompared : ((t.ports p).atDelay host).neighborRateRatioValid = true →
      ((computePropTime ((t.ports p).atDelay host)).neighborPropDelay ≤
          (t.ports p).neighborPropDelayThresh ↔
        (((t.ports p).atDelay host).exactDelay + ((t.ports p).atDelay host).delayError) % 2 ^ 32 ≤
          (t.ports p).neighborPropDelayThresh.toNat) := by
    intro hvalid
    rw [← neighborPropDelay_eq hvalid hrange, UInt32.le_iff_toNat_le, Nat.cast_le]
  constructor
  · rintro h ⟨hother, hvalid, hbounds, hremainder⟩
    exact hbounds (h ⟨(hcompared hvalid).mpr hremainder, hother, hvalid⟩)
  · rintro h ⟨hdelay, hother, hvalid⟩
    by_contra hbounds
    exact h ⟨hother, hvalid, hbounds, (hcompared hvalid).mp hdelay⟩

/-! ### Time that goes forward -/

/-- No carry is lost for less than 2^31 seconds. -/
theorem lostCarry_seconds {seconds : ℕ} (h : seconds < 2 ^ 31) : lostCarry seconds (10 ^ 9) = 0 := by
  rw [lostCarry, Limbs.middleSum, show 10 ^ 9 % 2 ^ 16 = 51712 from rfl,
    show 10 ^ 9 / 2 ^ 16 = 15258 from rfl]
  omega

/-- Nothing is added to a difference that is not negative and less than 2^31 seconds. -/
theorem excess_eq_zero {d : ℤ} (h : 0 ≤ d) (h' : d < 2 ^ 31 * 10 ^ 9) : excess d = 0 := by
  have hseconds : d.tdiv (10 ^ 9) = d / 10 ^ 9 := Int.tdiv_eq_ediv_of_nonneg h
  have hfraction : ¬ d.tmod (10 ^ 9) < 0 := not_lt.mpr (Int.tmod_nonneg _ h)
  have hcarry : lostCarry (d.tdiv (10 ^ 9) % 2 ^ 32).toNat (10 ^ 9) = 0 :=
    lostCarry_seconds (by omega)
  rw [excess, if_neg hfraction, hcarry, hseconds]
  omega

/-- **For times that go forward** without a carry that is lost, a port that becomes capable has a
delay within the bounds if it is less than 2^32 nanoseconds away from them. -/
theorem delayInBounds_of_asCapable (host : Host) (clock : Clock) (t : PdelaySystem) (p : UInt8)
    (hcompute : (t.ports p).computeNeighborPropDelay = true)
    (hrange : TimestampsInRange ((t.ports p).atDelay host))
    (hrequester : 0 ≤ ((t.ports p).atDelay host).requesterTime)
    (hrequester' : ((t.ports p).atDelay host).requesterTime < 2 ^ 31 * 10 ^ 9)
    (hresponder : 0 ≤ ((t.ports p).atDelay host).responderTime)
    (hresponder' : ((t.ports p).atDelay host).responderTime < 2 ^ 31 * 10 ^ 9)
    (hcarry : lostCarry (((t.ports p).atDelay host).requesterTime % 2 ^ 32).toNat
      ((t.ports p).atDelay host).neighborRateRatio.toNat = 0)
    (hlower : (t.ports p).neighborPropDelayThresh.toNat - 2 ^ 32 <
      ((t.ports p).atDelay host).exactDelay)
    (hupper : ((t.ports p).atDelay host).exactDelay < 2 ^ 32)
    (hcapable : ((mdPdelayReqSetState host clock t p .waitingForPdelayIntervalTimer).ports
      p).asCapable = true) :
    DelayInBounds host (t.ports p) := by
  obtain ⟨hdelay, -, hvalid⟩ := (asCapable_iff hcompute).mp hcapable
  have herror : ((t.ports p).atDelay host).delayError = 0 := by
    rw [PdelayPort.delayError, excess_eq_zero hrequester hrequester',
      excess_eq_zero hresponder hresponder', hcarry, Int.zero_mul]
    rfl
  have hmeasured := neighborPropDelay_eq hvalid hrange
  rw [herror, Int.add_zero] at hmeasured
  rw [UInt32.le_iff_toNat_le] at hdelay
  rw [DelayInBounds]
  omega

/-! ### A delay of sixty-six microseconds -/

/-- A response of another clock. -/
def otherClockResponse : Mem := fun k => if k = 20 then 1 else 0

/-- A follow-up with the time of four seconds and 999867926 nanoseconds. -/
def slowFollowUp : Mem := fun k =>
  if k = 39 then 4
  else if k = 40 then 0x3B
  else if k = 41 then 0x98
  else if k = 42 then 0xC6
  else if k = 43 then 0x16
  else 0

/-- A port that has waited for four seconds for the response to its request. -/
def slowPort : PdelayPort :=
  { freshPort 0 with
    computeNeighborPropDelay := true
    neighborRateRatio := 0x7FFFFFFF
    neighborRateRatioValid := true
    rcvdPdelayRespPtr := ⟨otherClockResponse, 1⟩
    rcvdPdelayRespFollowUpPtr := ⟨slowFollowUp, 2⟩
    pdelayReqTxTimestamp := ⟨0, 1, 0⟩
    pdelayReqRxTimestamp := ⟨⟨0, 1, 0⟩, ⟨otherClockResponse, 1⟩⟩
    pdelayRespRxTimestamp := ⟨⟨0, 5, 0⟩, ⟨otherClockResponse, 1⟩⟩ }

def slowSystem : PdelaySystem := ⟨fun _ => slowPort, clockIdentityOf exampleMac, delayMechanismP2P⟩

theorem slowPort_inRange : TimestampsInRange (slowPort.atDelay bigEndianHost) where
  treq1 := by decide
  trsp2 := by decide
  trsp3 := by decide
  treq4 := by decide

/-- **A delay of 66036 nanoseconds is taken for 500**: the carry that is lost is worth 65536. -/
theorem delay_misjudged :
    slowPort.computeNeighborPropDelay = true ∧
      TimestampsInRange (slowPort.atDelay bigEndianHost) ∧
      ((mdPdelayReqSetState bigEndianHost atBoot slowSystem 0
        .waitingForPdelayIntervalTimer).ports 0).asCapable = true ∧
      (slowPort.atDelay bigEndianHost).exactDelay = 66036 ∧
      ¬ DelayInBounds bigEndianHost slowPort := by
  have hdelay : (slowPort.atDelay bigEndianHost).exactDelay = 66036 := by decide +kernel
  have hcapable : ((mdPdelayReqSetState bigEndianHost atBoot slowSystem 0
      .waitingForPdelayIntervalTimer).ports 0).asCapable = true := by
    decide +kernel
  refine ⟨rfl, slowPort_inRange, hcapable, hdelay, fun h => ?_⟩
  have hle := h.2
  rw [hdelay] at hle
  exact absurd hle (by decide)

theorem asCapable_sound_slowPort :
    (((mdPdelayReqSetState bigEndianHost atBoot slowSystem 0
        .waitingForPdelayIntervalTimer).ports 0).asCapable = true →
        DelayInBounds bigEndianHost slowPort) ↔
      ¬ (FromOtherClock slowSystem 0 ∧
        (slowPort.atDelay bigEndianHost).neighborRateRatioValid = true ∧
        Misjudged bigEndianHost slowPort) :=
  asCapable_sound_iff bigEndianHost atBoot slowSystem 0 rfl slowPort_inRange

end Gptp
