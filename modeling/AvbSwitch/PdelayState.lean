/-
The state of the peer delay mechanism: what MDPdelayReq (802.1AS, 11.2.15.3) and
LinkDelaySyncIntervalSetting (11.2.17.2) keep for a port.

A port of this module is one of `GptpState` with the fields of these machines added.
`port` is an octet everywhere, and `ports` has a cell for each octet, so that an index past
the end of the array has a cell as well.

Two things are recorded that the program does not keep.  A timestamp that is read out of a
received frame, or taken when a frame is received, comes with that frame (`FrameTime`), and
`pdelayReq` is the request that was transmitted last.
-/
import AvbSwitch.GptpRuns
import AvbSwitch.PtpArithmetic

open Octets OctetOrder

namespace Gptp

/-! ### Frames -/

/-- A received frame, from the common header on, and the number of its reception. -/
structure RxFrame where
  octets : Mem
  number : ℕ

/-- A timestamp and the received frame it stems from. -/
structure FrameTime where
  time : PtpTime
  frame : RxFrame

/-! ### Ports -/

/-- `MDPdelayReq_State_t`. -/
inductive MDPdelayReqState
  | notEnabled
  | initialSendPdelayReq
  | reset
  | sendPdelayReq
  | waitingForPdelayResp
  | waitingForPdelayRespFollowUp
  | waitingForPdelayIntervalTimer
  deriving DecidableEq, Repr

/-- `LinkDelaySyncIntervalSetting_State_t`; `initialized` is `LinkDelaySyncIntervalSetting_INITIALIZE`. -/
inductive LinkDelaySyncIntervalSettingState
  | notEnabled
  | initialized
  | setIntervals
  deriving DecidableEq, Repr

/-- `struct vtss_gptp_port_vars` with the variables of the peer delay mechanism. -/
structure PdelayPort extends Port where
  usPortNumber : UInt16
  macaddr : Vector UInt8 6
  rxPhyMacDelay : PtpTime
  initialLogSyncInterval : UInt32
  neighborRateRatio : UInt32
  neighborPropDelay : UInt32
  computeNeighborRateRatio : Bool
  computeNeighborPropDelay : Bool
  currentLogPdelayReqInterval : Int8
  initialLogPdelayReqInterval : Int8
  allowedLostResponses : UInt32
  isMeasuringDelay : Bool
  neighborPropDelayThresh : UInt32
  mdPdelayReqState : MDPdelayReqState
  pdelayIntervalTimer : UInt32
  rcvdPdelayResp : Bool
  rcvdPdelayRespPtr : RxFrame
  rcvdPdelayRespFollowUp : Bool
  rcvdPdelayRespFollowUpPtr : RxFrame
  rcvdMDTimestampReceive : Bool
  pdelayReqSequenceId : UInt16
  initPdelayRespReceived : Bool
  lostResponses : UInt32
  neighborRateRatioValid : Bool
  pdelayResponses : UInt32
  multiplePdelayResponses : UInt32
  linkDelaySyncIntervalSettingState : LinkDelaySyncIntervalSettingState
  rcvdSignalingMsg1 : Bool
  rcvdSignalingPtr : Mem
  /-- Treq1 -/
  pdelayReqTxTimestamp : PtpTime
  /-- Trsp2 -/
  pdelayReqRxTimestamp : FrameTime
  /-- Trsp3 -/
  pdelayRespTxTimestamp : FrameTime
  /-- Treq4 -/
  pdelayRespRxTimestamp : FrameTime
  pdelayRespTxTimestampI : PtpTime
  pdelayRespRxTimestampI : PtpTime
  /-- the request that `transmit_pdelay_request` built last -/
  pdelayReq : Mem

/-- The variables of the peer delay mechanism before they are first written. -/
def PdelayPort.staticMemory (port : Port) : PdelayPort :=
  { port with
    usPortNumber := 0
    macaddr := Vector.replicate 6 0
    rxPhyMacDelay := ⟨0, 0, 0⟩
    initialLogSyncInterval := 0
    neighborRateRatio := 0
    neighborPropDelay := 0
    computeNeighborRateRatio := false
    computeNeighborPropDelay := false
    currentLogPdelayReqInterval := 0
    initialLogPdelayReqInterval := 0
    allowedLostResponses := 0
    isMeasuringDelay := false
    neighborPropDelayThresh := 0
    mdPdelayReqState := .notEnabled
    pdelayIntervalTimer := 0
    rcvdPdelayResp := false
    rcvdPdelayRespPtr := ⟨fun _ => 0, 0⟩
    rcvdPdelayRespFollowUp := false
    rcvdPdelayRespFollowUpPtr := ⟨fun _ => 0, 0⟩
    rcvdMDTimestampReceive := false
    pdelayReqSequenceId := 0
    initPdelayRespReceived := false
    lostResponses := 0
    neighborRateRatioValid := false
    pdelayResponses := 0
    multiplePdelayResponses := 0
    linkDelaySyncIntervalSettingState := .notEnabled
    rcvdSignalingMsg1 := false
    rcvdSignalingPtr := fun _ => 0
    pdelayReqTxTimestamp := ⟨0, 0, 0⟩
    pdelayReqRxTimestamp := ⟨⟨0, 0, 0⟩, ⟨fun _ => 0, 0⟩⟩
    pdelayRespTxTimestamp := ⟨⟨0, 0, 0⟩, ⟨fun _ => 0, 0⟩⟩
    pdelayRespRxTimestamp := ⟨⟨0, 0, 0⟩, ⟨fun _ => 0, 0⟩⟩
    pdelayRespTxTimestampI := ⟨0, 0, 0⟩
    pdelayRespRxTimestampI := ⟨0, 0, 0⟩
    pdelayReq := fun _ => 0 }

/-- What `gptp_sw_init` writes to port `p`, with `DEFAULT_SOURCE_MAC`, the delay of the
platform and the two values of the port configuration as parameters. -/
def PdelayPort.swInit (mac : Vector UInt8 6) (rxPhyMacDelay : PtpTime)
    (initialLogSyncInterval nbrPropDelayThresh : UInt32) (p : UInt8) (pp : PdelayPort) :
    PdelayPort :=
  { pp with
    usPortNumber := p.toUInt16 + 1
    macaddr := mac
    rxPhyMacDelay := rxPhyMacDelay
    currentLogSyncInterval := 3
    initialLogSyncInterval := initialLogSyncInterval
    portEnabled := true
    pttPortEnabled := true
    asCapable := true
    pdelayIntervalTimer := 0
    mdPdelayReqState := .notEnabled
    allowedLostResponses := 3
    neighborPropDelayThresh := nbrPropDelayThresh
    neighborPropDelay := 0 }

/-- `PDELAY_REQ_INTERVAL_TICKS`.  To shift by the width of an `int` or more is not defined,
nor is it to shift a one into the sign. -/
def PdelayPort.pdelayReqIntervalTicks (pp : PdelayPort) : Option UInt32 :=
  if -31 ≤ pp.currentLogPdelayReqInterval ∧ pp.currentLogPdelayReqInterval ≤ 30 then
    some (UInt32.ofInt (signedShift (1000 / 1000) pp.currentLogPdelayReqInterval.toInt))
  else none

/-- The request interval has passed. -/
def PdelayPort.intervalExpired (pp : PdelayPort) : Option Bool :=
  pp.pdelayReqIntervalTicks.map fun ticks => ticks ≤ pp.pdelayIntervalTimer

/-! ### Port identities -/

/-- `get_receiving_port_id`. -/
def getReceivingPortId (m : Mem) : PortIdentity := ⟨clockIdentityAt m 44, shortAt m 52⟩

/-- `get_source_port_id_from_port`. -/
def getSourcePortIdFromPort (p : UInt8) (pp : PdelayPort) : PortIdentity :=
  ⟨clockIdentityOf pp.macaddr, ⟨UInt8.ofNat (p.toNat * 256), p⟩⟩

/-- `compare_port_ids`. -/
def comparePortIds (portIdA portIdB : PortIdentity) : Ordering :=
  memcmp portIdA.octets portIdB.octets

theorem PortIdentity.octets_length (s : PortIdentity) : s.octets.length = 10 := by
  rw [octets, List.length_append, Vector.length_toList]
  rfl

theorem comparePortIds_eq_iff {a b : PortIdentity} : comparePortIds a b = .eq ↔ a = b := by
  rw [comparePortIds, memcmp_eq_iff (a.octets_length.trans b.octets_length.symm)]
  obtain ⟨clockA, ⟨hiA, loA⟩⟩ := a
  obtain ⟨clockB, ⟨hiB, loB⟩⟩ := b
  constructor
  · intro h
    obtain ⟨hclock, hport⟩ :=
      List.append_inj h (clockA.length_toList.trans clockB.length_toList.symm)
    obtain ⟨rfl, rfl⟩ : hiA = hiB ∧ loA = loB := by
      simpa only [Short.octets, List.cons.injEq, and_true] using hport
    obtain rfl : clockA = clockB := Vector.toList_inj.mp hclock
    rfl
  · intro h
    rw [h]

/-! ### The system -/

/-- `PTP_DELAY_MECHANISM_P2P`. -/
def delayMechanismP2P : UInt8 := 0x02

/-- `struct gptpm`, as far as the peer delay mechanism reads and writes it. -/
structure PdelaySystem where
  ports : UInt8 → PdelayPort
  grandmasterIdentity : ClockIdentity
  delayMechanism : UInt8

/-- Change one port. -/
def PdelaySystem.modify (t : PdelaySystem) (p : UInt8) (f : PdelayPort → PdelayPort) :
    PdelaySystem :=
  { t with ports := Function.update t.ports p (f (t.ports p)) }

variable {t : PdelaySystem} {p q : UInt8} {f : PdelayPort → PdelayPort}

@[simp] theorem PdelaySystem.modify_self : (t.modify p f).ports p = f (t.ports p) := by
  simp only [modify, Function.update_self]

@[simp] theorem PdelaySystem.modify_of_ne (h : q ≠ p) : (t.modify p f).ports q = t.ports q := by
  simp only [modify, Function.update_of_ne h]

theorem PdelaySystem.modify_id : t.modify p (fun pp => pp) = t := by
  simp only [modify, Function.update_eq_self]

end Gptp
