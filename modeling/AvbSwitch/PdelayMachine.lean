/-
MDPdelayReq (802.1AS, 11.2.15.3): the machine that sends peer delay requests and takes the
responses and their follow-ups.

The identities and sequence numbers that responses are compared with are read once, before
the loop (`Locals`); a request that is sent inside the loop does not change them.
-/
import AvbSwitch.PdelayState

open Octets

namespace Gptp

/-! ### What the platform provides -/

/-- The order of the octets in a word, and `sizeof` a pointer. -/
structure Host where
  bigEndian : Bool
  sizeofPointer : ℕ
  sizeofPointer_le : sizeofPointer ≤ 8

/-- The clock while a handler runs. -/
structure Clock where
  timeSinceBoot : Vector UInt8 4
  /-- what a local timestamp holds before it is written -/
  leftover : PtpTime

/-- A host that keeps the high octet first, with pointers of four octets. -/
def bigEndianHost : Host := ⟨true, 4, by decide⟩

def atBoot : Clock := ⟨#v[0, 0, 0, 0], ⟨0, 0, 0⟩⟩

/-! ### Sending a request -/

/-- The request frame that `transmit_pdelay_request` builds.  Its timestamp goes to
`sizeof(pComMesgHdr)`, which is the size of the pointer, not that of the header. -/
def pdelayRequest (host : Host) (currTime : PtpTime) (pp : PdelayPort) : Mem :=
  let m : Mem := fun _ => 0
  let m := put m 0 (0x10 ||| 0x02)
  let m := put m 1 2
  let m := put2 m 2 (34 + 20)
  let m := putList m 20 (clockIdentityOf pp.macaddr).toList
  let m := put2 m 28 pp.usPortNumber.toNat
  let m := put2 m 30 pp.pdelayReqSequenceId.toNat
  let m := put m 32 0x05
  let m := put m 33 0x7F
  putList m host.sizeofPointer (putTimestamp host.bigEndian currTime)

/-- `transmit_pdelay_request`. -/
def transmitPdelayRequest (host : Host) (clock : Clock) (t : PdelaySystem) (p : UInt8) :
    PdelaySystem :=
  let t := t.modify p fun pp => { pp with pdelayReqSequenceId := pp.pdelayReqSequenceId + 1 }
  let currTime := getRtcTime host.bigEndian clock.timeSinceBoot clock.leftover
  let currTime := { currTime with nanoseconds := currTime.nanoseconds + 1 }
  let t := t.modify p fun pp => { pp with pdelayReq := pdelayRequest host currTime pp }
  let currTime := { currTime with nanoseconds := currTime.nanoseconds + 1 }
  -- the loop over the correction field has left its index at 8, and it is used again here
  t.modify 8 fun pp =>
    { pp with pdelayReqTxTimestamp := currTime, rcvdMDTimestampReceive := true }

/-! ### The computations -/

/-- The seconds and nanoseconds of a difference as one number of nanoseconds. -/
def nanosecondsOf (difference : PtpTime) : TdUint64 :=
  uint64AddUint32 (uint64TimesUint32 (uint32ToUint64 difference.secondsLower) 1000000000)
    difference.nanoseconds.toUInt32

/-- The loop of `computePdelayRateRatio` for `shift`. -/
def rateRatioShift (nsResponder : TdUint64) : ℕ :=
  ((List.range 31).find? fun shift =>
    nsResponder.highPart &&& (1 <<< UInt32.ofNat (31 - shift)) ≠ 0).getD 31

/-- `computePdelayRateRatio`. -/
def computePdelayRateRatio (pp : PdelayPort) : PdelayPort :=
  let rolled := { pp with
    pdelayRespTxTimestampI := pp.pdelayRespTxTimestamp.time
    pdelayRespRxTimestampI := pp.pdelayRespRxTimestamp.time }
  if !pp.initPdelayRespReceived then { rolled with initPdelayRespReceived := true }
  else
    let difference := timestampDifference pp.pdelayRespTxTimestamp.time pp.pdelayRespTxTimestampI
    let difference2 := timestampDifference pp.pdelayRespRxTimestamp.time pp.pdelayRespRxTimestampI
    -- one of the two times has gone backwards
    if (difference.secondsUpper.toUInt32 &&& 0x80000000) |||
        (difference2.secondsUpper.toUInt32 &&& 0x80000000) ≠ 0 then
      { rolled with initPdelayRespReceived := false, neighborRateRatioValid := false }
    else
      let nsResponder := nanosecondsOf difference
      let nsRequester := nanosecondsOf difference2
      let shift := rateRatioShift nsResponder
      let tempval := uint64RShift nsRequester (UInt32.ofNat (31 - shift))
      if tempval ≠ .zero then
        let rateRatio := uint64DividedByUint64 (uint64LShift nsResponder (UInt32.ofNat shift)) tempval
        { rolled with neighborRateRatio := rateRatio.lowPart, neighborRateRatioValid := true }
      else rolled

/-- `computePropTime`. -/
def computePropTime (pp : PdelayPort) : PdelayPort :=
  if pp.neighborRateRatioValid then
    let difference :=
      timestampDifference pp.pdelayRespTxTimestamp.time pp.pdelayReqRxTimestamp.time
    let difference2 := timestampDifference pp.pdelayRespRxTimestamp.time pp.pdelayReqTxTimestamp
    let nsResponder := nanosecondsOf difference
    let nsRequester := nanosecondsOf difference2
    let tempval := uint64RShift (uint64TimesUint32 nsRequester pp.neighborRateRatio) 31
    let tempval := int64Subtract tempval nsResponder
    { pp with neighborPropDelay := (uint64RShift tempval 1).lowPart }
  else pp

/-- The two computations, as far as they are asked for. -/
def computeDelays (pp : PdelayPort) : PdelayPort :=
  let pp := if pp.computeNeighborRateRatio then computePdelayRateRatio pp else pp
  if pp.computeNeighborPropDelay then computePropTime pp else pp

/-! ### Entry actions -/

/-- `MDPdelayReq_StateMachine_SetState`. -/
def mdPdelayReqSetState (host : Host) (clock : Clock) (t : PdelaySystem) (p : UInt8)
    (newState : MDPdelayReqState) : PdelaySystem :=
  let t := t.modify p fun pp => { pp with mdPdelayReqState := newState }
  match newState with
  | .notEnabled =>
    t.modify p fun pp => { pp with asCapable := false, multiplePdelayResponses := 0 }
  | .initialSendPdelayReq =>
    let t := t.modify p fun pp =>
      { pp with
        initPdelayRespReceived := false
        neighborRateRatio := 0x80000000
        rcvdMDTimestampReceive := false
        pdelayReqSequenceId := 0
        rcvdPdelayResp := false
        rcvdPdelayRespFollowUp := false }
    -- what was received before is thrown away; the request has the sequence number 1
    let t := transmitPdelayRequest host clock t p
    t.modify p fun pp =>
      { pp with
        pdelayIntervalTimer := 0
        lostResponses := 0
        isMeasuringDelay := false
        asCapable := false
        neighborRateRatioValid := false
        pdelayResponses := 0
        multiplePdelayResponses := 0 }
  | .reset =>
    t.modify p fun pp =>
      let pp := { pp with
        initPdelayRespReceived := false
        rcvdPdelayResp := false
        rcvdPdelayRespFollowUp := false }
      -- the measurement is given up when too many responses are lost
      if pp.lostResponses ≤ pp.allowedLostResponses then
        { pp with lostResponses := pp.lostResponses + 1 }
      else { pp with isMeasuringDelay := false, asCapable := false }
  -- the sequence number is counted up here and once more by `transmit_pdelay_request`
  | .sendPdelayReq =>
    let t := t.modify p fun pp => { pp with pdelayReqSequenceId := pp.pdelayReqSequenceId + 1 }
    let t := transmitPdelayRequest host clock t p
    t.modify p fun pp =>
      let pp := { pp with pdelayIntervalTimer := 0 }
      let pp : PdelayPort :=
        if pp.pdelayResponses = 1 then { pp with multiplePdelayResponses := 0 }
        else if 1 < pp.pdelayResponses then
          -- more than one response to a request, three times in a row, disables the port
          let multiple := pp.multiplePdelayResponses + 1
          { pp with
            multiplePdelayResponses := multiple
            portEnabled := if 3 ≤ multiple then false else pp.portEnabled }
        else pp
      { pp with pdelayResponses := 0 }
  | .waitingForPdelayResp => t.modify p fun pp => { pp with rcvdMDTimestampReceive := false }
  | .waitingForPdelayRespFollowUp =>
    t.modify p fun pp =>
      { pp with
        rcvdPdelayResp := false
        pdelayReqRxTimestamp :=
          { time := getTimestamp host.bigEndian pp.rcvdPdelayRespPtr.octets 34
              pp.pdelayReqRxTimestamp.time
            frame := pp.rcvdPdelayRespPtr } }
  | .waitingForPdelayIntervalTimer =>
    t.modify p fun pp =>
      let pp := { pp with
        rcvdPdelayRespFollowUp := false
        pdelayRespTxTimestamp :=
          { time := getTimestamp host.bigEndian pp.rcvdPdelayRespFollowUpPtr.octets 34
              pp.pdelayRespTxTimestamp.time
            frame := pp.rcvdPdelayRespFollowUpPtr } }
      let pp := computeDelays pp
      let rxSourcePortId := getSourcePortId pp.rcvdPdelayRespPtr.octets
      { pp with
        lostResponses := 0
        isMeasuringDelay := true
        asCapable := pp.neighborPropDelay ≤ pp.neighborPropDelayThresh &&
          compareClockIdentity rxSourcePortId.clockIdentity t.grandmasterIdentity ≠ .eq &&
          pp.neighborRateRatioValid }

/-! ### Transitions -/

/-- What a received frame is compared with. -/
structure Comparison where
  rxRequestingPortId : PortIdentity
  txRequestingPortId : PortIdentity
  rxSequenceId : ℕ
  txSequenceId : ℕ

/-- `VTSS_COMMON_UNALIGNED_GET_4B` of a `sequenceId`, which has two octets. -/
def sequenceIdOf (m : Mem) : ℕ := get2 m 30 * 65536 + get2 m 32

def Comparison.of (p : UInt8) (pp : PdelayPort) (m : Mem) : Comparison where
  rxRequestingPortId := getReceivingPortId m
  txRequestingPortId := getSourcePortIdFromPort p pp
  rxSequenceId := sequenceIdOf m
  txSequenceId := pp.pdelayReqSequenceId.toNat

/-- The locals as they are set before the frames are looked at. -/
def Comparison.zero : Comparison where
  rxRequestingPortId := ⟨Vector.replicate 8 0, ⟨0, 0⟩⟩
  txRequestingPortId := ⟨Vector.replicate 8 0, ⟨0, 0⟩⟩
  rxSequenceId := 0
  txSequenceId := 0

def Comparison.samePort (c : Comparison) : Bool :=
  comparePortIds c.rxRequestingPortId c.txRequestingPortId = .eq

def Comparison.sameSequence (c : Comparison) : Bool := c.rxSequenceId = c.txSequenceId

/-- The locals of `MDPdelayReq_StateMachine`. -/
structure Locals where
  resp : Comparison
  fup : Comparison

def Locals.of (p : UInt8) (pp : PdelayPort) : Locals where
  resp := if pp.rcvdPdelayResp then .of p pp pp.rcvdPdelayRespPtr.octets else .zero
  fup := if pp.rcvdPdelayRespFollowUp then .of p pp pp.rcvdPdelayRespFollowUpPtr.octets else .zero

/-- The state that the machine enters next, if any. -/
def mdPdelayReqNextState (l : Locals) (pp : PdelayPort) : Option (Option MDPdelayReqState) :=
  match pp.mdPdelayReqState with
  | .notEnabled =>
    some (if pp.portEnabled && pp.pttPortEnabled then some .initialSendPdelayReq else none)
  | .reset => some (some .sendPdelayReq)
  | .initialSendPdelayReq | .sendPdelayReq =>
    if pp.rcvdMDTimestampReceive then some (some .waitingForPdelayResp)
    else pp.intervalExpired.map fun expired => if expired then some .reset else none
  | .waitingForPdelayResp =>
    pp.intervalExpired.map fun expired =>
      -- any response that does not match resets the machine
      if expired || pp.rcvdPdelayResp && (!l.resp.samePort || !l.resp.sameSequence) then
        some .reset
      else if pp.rcvdPdelayResp && l.resp.sameSequence && l.resp.samePort then
        some .waitingForPdelayRespFollowUp
      else none
  | .waitingForPdelayRespFollowUp =>
    pp.intervalExpired.map fun expired =>
      -- only another response with the same number resets it; one with a different number is ignored
      if expired || pp.rcvdPdelayResp && l.resp.sameSequence then some .reset
      else if pp.rcvdPdelayRespFollowUp && l.fup.sameSequence && l.fup.samePort then
        some .waitingForPdelayIntervalTimer
      else none
  | .waitingForPdelayIntervalTimer =>
    pp.intervalExpired.map fun expired => if expired then some .sendPdelayReq else none

/-- One turn of the loop. -/
def mdPdelayReqTurn (host : Host) (clock : Clock) (l : Locals) (p : UInt8) (t : PdelaySystem) :
    Option PdelaySystem :=
  (mdPdelayReqNextState l (t.ports p)).map fun
    | some newState => mdPdelayReqSetState host clock t p newState
    | none =>
      -- the timer does not run before the port is enabled
      if (t.ports p).mdPdelayReqState = .notEnabled then
        t.modify p fun pp => { pp with pdelayIntervalTimer := 0 }
      else t

/-- The loop, as long as the state changes: the system it leaves, and the port as it was
after each entry action. -/
def mdPdelayReqTurns (host : Host) (clock : Clock) (l : Locals) (p : UInt8) :
    ℕ → PdelaySystem → Option (PdelaySystem × List PdelayPort)
  | 0, _ => none
  | fuel + 1, t =>
    (mdPdelayReqTurn host clock l p t).bind fun t' =>
      if (t.ports p).mdPdelayReqState = (t'.ports p).mdPdelayReqState then some (t', [])
      else (mdPdelayReqTurns host clock l p fuel t').map fun r => (r.1, t'.ports p :: r.2)

/-- `MDPdelayReq_StateMachine`, with at most `fuel` turns of its loop. -/
def mdPdelayReqStateMachine (fuel : ℕ) (host : Host) (clock : Clock) (t : PdelaySystem)
    (p : UInt8) : Option (PdelaySystem × List PdelayPort) :=
  if t.delayMechanism ≠ delayMechanismP2P then some (t, [])
  else if !(t.ports p).portEnabled || !(t.ports p).pttPortEnabled then
    if (t.ports p).mdPdelayReqState ≠ .notEnabled then
      let t' := mdPdelayReqSetState host clock t p .notEnabled
      some (t', [t'.ports p])
    else some (t, [])
  else mdPdelayReqTurns host clock (Locals.of p (t.ports p)) p fuel t

/-- `get_hardware_timestamp` of a received frame. -/
def getHardwareTimestamp (host : Host) (clock : Clock) (pp : PdelayPort) : PtpTime :=
  timestampDifference (getRtcTime host.bigEndian clock.timeSinceBoot clock.leftover)
    pp.rxPhyMacDelay

/-- What `process_rx_pdelay_resp` writes before it runs the machine. -/
def takePdelayResp (host : Host) (clock : Clock) (rxBuffer : RxFrame) (pp : PdelayPort) :
    PdelayPort :=
  { pp with
    rcvdPdelayResp := true
    rcvdPdelayRespPtr := rxBuffer
    pdelayRespRxTimestamp := ⟨getHardwareTimestamp host clock pp, rxBuffer⟩
    pdelayResponses := pp.pdelayResponses + 1 }

/-- What `process_rx_pdelay_resp_fup` writes before it runs the machine. -/
def takePdelayRespFup (rxBuffer : RxFrame) (pp : PdelayPort) : PdelayPort :=
  { pp with rcvdPdelayRespFollowUp := true, rcvdPdelayRespFollowUpPtr := rxBuffer }

/-- `process_rx_pdelay_resp`. -/
def processRxPdelayResp (fuel : ℕ) (host : Host) (clock : Clock) (t : PdelaySystem) (p : UInt8)
    (rxBuffer : RxFrame) : Option (PdelaySystem × List PdelayPort) :=
  mdPdelayReqStateMachine fuel host clock (t.modify p (takePdelayResp host clock rxBuffer)) p

/-- `process_rx_pdelay_resp_fup`. -/
def processRxPdelayRespFup (fuel : ℕ) (host : Host) (clock : Clock) (t : PdelaySystem)
    (p : UInt8) (rxBuffer : RxFrame) : Option (PdelaySystem × List PdelayPort) :=
  mdPdelayReqStateMachine fuel host clock (t.modify p (takePdelayRespFup rxBuffer)) p

/-! ### Link delay intervals -/

/-- The first variable after the header of a Signaling message is at octet 54. -/
def signalingVariables : ℕ := 34 + 20

/-- `LinkDelaySyncIntervalSetting_StateMachine_SetState`. -/
def linkDelaySyncIntervalSettingSetState (pp : PdelayPort)
    (newState : LinkDelaySyncIntervalSettingState) : PdelayPort :=
  let pp := { pp with linkDelaySyncIntervalSettingState := newState }
  match newState with
  | .notEnabled => pp
  | .initialized =>
    { pp with
      currentLogPdelayReqInterval := pp.initialLogPdelayReqInterval
      currentLogSyncInterval := pp.initialLogSyncInterval
      computeNeighborRateRatio := true
      computeNeighborPropDelay := true
      rcvdSignalingMsg1 := false }
  | .setIntervals =>
    let linkDelayInterval := (pp.rcvdSignalingPtr signalingVariables).toInt8
    let timeSyncInterval := (pp.rcvdSignalingPtr (signalingVariables + 1)).toInt8
    let flags := pp.rcvdSignalingPtr (signalingVariables + 3)
    { pp with
      -- the case 126 has no `break`, and goes on to store the value itself
      currentLogPdelayReqInterval :=
        if linkDelayInterval = -128 then pp.currentLogPdelayReqInterval else linkDelayInterval
      currentLogSyncInterval :=
        if timeSyncInterval = -128 then pp.currentLogSyncInterval
        else if timeSyncInterval = 126 then pp.initialLogSyncInterval
        else timeSyncInterval.toInt32.toUInt32
      computeNeighborRateRatio := flags &&& 1 ≠ 0
      computeNeighborPropDelay := flags &&& 2 ≠ 0
      rcvdSignalingMsg1 := false }

/-- One turn of the loop of `LinkDelaySyncIntervalSetting_StateMachine`. -/
def linkDelaySyncIntervalSettingTurn (pp : PdelayPort) : PdelayPort :=
  match pp.linkDelaySyncIntervalSettingState with
  | .notEnabled =>
    if pp.portEnabled && pp.pttPortEnabled then
      linkDelaySyncIntervalSettingSetState pp .initialized
    else pp
  | .initialized | .setIntervals =>
    if pp.rcvdSignalingMsg1 then linkDelaySyncIntervalSettingSetState pp .setIntervals else pp

/-- The loop of `LinkDelaySyncIntervalSetting_StateMachine`. -/
def linkDelaySyncIntervalSettingTurns : ℕ → PdelayPort → Option PdelayPort
  | 0, _ => none
  | fuel + 1, pp =>
    let pp' := linkDelaySyncIntervalSettingTurn pp
    if pp.linkDelaySyncIntervalSettingState = pp'.linkDelaySyncIntervalSettingState then some pp'
    else linkDelaySyncIntervalSettingTurns fuel pp'

/-- `LinkDelaySyncIntervalSetting_StateMachine`.  Its loop takes no more than three turns. -/
def linkDelaySyncIntervalSettingStateMachine (pp : PdelayPort) : Option PdelayPort :=
  if !pp.portEnabled || !pp.pttPortEnabled then
    if pp.linkDelaySyncIntervalSettingState ≠ .notEnabled then
      some (linkDelaySyncIntervalSettingSetState pp .notEnabled)
    else some pp
  else linkDelaySyncIntervalSettingTurns 3 pp

/-- `process_rx_signaling`. -/
def processRxSignaling (rxBuffer : Mem) (pp : PdelayPort) : Option PdelayPort :=
  linkDelaySyncIntervalSettingStateMachine
    { pp with rcvdSignalingPtr := rxBuffer, rcvdSignalingMsg1 := true }

end Gptp
