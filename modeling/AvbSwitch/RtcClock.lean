/-
The clock, and what is done to it: `set_rtc_time`, `set_rtc_time_adjusted`, `ack_grandmaster_change`,
and the parts of `gptp_sw_init` and `process_rx_fup` that have to do with it.

`process_rx_fup` compares the time at which a Sync message came in with the time at which it was
sent.  If they are far apart, the clock is set, and otherwise `rtc_update_servo` corrects its
increment.  Only then the message is relayed, which is no part of this.

The variables of the port are those that `storeFup` leaves.  `time_since_boot` is counted up by an
interrupt, at any time.
-/
import AvbSwitch.GptpBridge
import AvbSwitch.RtcServo

open Octets

namespace Gptp

variable {n : ℕ}

/-- `RESET_THRESHOLD_NS`. -/
def resetThresholdNs : Int32 := 100000

/-- `struct gptpm`, as far as it has to do with the clock, and the octets of `time_since_boot`. -/
structure RtcClock (n : ℕ) extends ServoSystem n where
  timeSinceBoot : Vector UInt8 4

/-- A port before its variables are first written. -/
def unwrittenServoPort : ServoPort where
  toPdelayPort := .staticMemory unwrittenPort
  delayReqTxLocalTimestamp := ⟨0, 0, 0⟩
  delayReqRxTimestamp := ⟨0, 0, 0⟩
  syncRxTimestamp := ⟨0, 0, 0⟩
  syncTxTimestamp := ⟨0, 0, 0⟩
  syncTimestampsValid := false
  delayReqTxTimestamp := ⟨0, 0, 0⟩
  delayReqTimestampsValid := false
  cumulativeScaledRateOffset := 0

/-- The variables before they are first written. -/
def RtcClock.staticMemory (timeSinceBoot : Vector UInt8 4) : RtcClock n where
  nominalIncrement := ⟨0, 0⟩
  coefficients := ⟨0, 0, 0⟩
  masterRateRatio := 0
  masterRateRatioValid := false
  integral := .zero
  derivative := 0
  previousOffset := 0
  rtcChangesAllowed := false
  rtcLastOffset := 0
  rtcLastOffsetValid := false
  acquiring := 0
  currentIncrement := ⟨0, 0⟩
  rtcClockVars := ⟨.zero, .zero, .zero⟩
  ports _ := unwrittenServoPort
  delayMechanism := 0
  timeSinceBoot := timeSinceBoot

/-! ### Setting the clock -/

/-- Call `set_rtc_increment`. -/
def RtcClock.setIncrement (t : RtcClock n) (increment : RtcIncrement) : RtcClock n :=
  { t with toServoSystem :=
    { t.toServoSystem with toRtcServo := setRtcIncrement t.toRtcServo increment } }

/-- `set_rtc_time`: the octets of the lower seconds.  Those of the upper seconds are written to the
same place before, and the nanoseconds are not written at all. -/
def setRtcTime (bigEndian : Bool) (time : PtpTime) : Vector UInt8 4 :=
  Vector.ofFn fun k => octetOf bigEndian time.secondsLower k

/-- The time that `set_rtc_time_adjusted` sets; `timeNow` is what the variable of that name holds
before it is written. -/
def adjustedTime (bigEndian : Bool) (timeSinceBoot : Vector UInt8 4)
    (timeNow time entryTime : PtpTime) : PtpTime :=
  let timeNow := getRtcTime bigEndian timeSinceBoot timeNow
  let timeDifference := timestampDifference timeNow entryTime
  timestampSum time timeDifference

/-- `set_rtc_time_adjusted`. -/
def RtcClock.setTimeAdjusted (bigEndian : Bool) (timeNow time entryTime : PtpTime)
    (t : RtcClock n) : RtcClock n :=
  { t with timeSinceBoot :=
    setRtcTime bigEndian (adjustedTime bigEndian t.timeSinceBoot timeNow time entryTime) }

/-- `ack_grandmaster_change`. -/
def RtcClock.ackGrandmasterChange (t : RtcClock n) : RtcClock n :=
  { t with rtcChangesAllowed := true }.setIncrement t.nominalIncrement

/-- `gptp_sw_init` and `get_platform_data`.  The nominal increment is that of a structure which is
not written before. -/
def RtcClock.gptpSwInit (nominalIncrement : RtcIncrement) (t : RtcClock n) : RtcClock n :=
  { t with
    nominalIncrement := nominalIncrement
    coefficients := ⟨0, 0, 0⟩
    delayMechanism := delayMechanismP2P
    rtcChangesAllowed := true
    masterRateRatio := 0
    masterRateRatioValid := false
    ports := fun i =>
      { t.ports i with
        syncTimestampsValid := false
        delayReqTimestampsValid := false
        neighborPropDelay := 0 } }.setIncrement nominalIncrement

/-! ### Follow_Up messages -/

/-- The variables of the port that Follow_Up messages and the control loop share. -/
def ServoPort.sharing (pp : ServoPort) (sync : SyncPort) : ServoPort :=
  { pp with
    syncRxTimestamp := sync.syncRxTimestamp
    syncTxTimestamp := sync.syncTxTimestamp
    syncTimestampsValid := sync.syncTimestampsValid
    cumulativeScaledRateOffset := sync.cumulativeScaledRateOffset
    neighborRateRatio := sync.neighborRateRatio
    neighborPropDelay := sync.neighborPropDelay
    neighborRateRatioValid := sync.neighborRateRatioValid }

/-- The two times are a second apart, or more than the threshold. -/
def SyncPort.FarApart (sync : SyncPort) : Prop :=
  let absDifference :=
    timestampAbs (timestampDifference sync.syncRxTimestampTemp sync.syncTxTimestamp)
  0 < absDifference.secondsUpper ∨ 0 < absDifference.secondsLower ∨
    resetThresholdNs < absDifference.nanoseconds

instance (sync : SyncPort) : Decidable sync.FarApart :=
  inferInstanceAs (Decidable (_ ∨ _ ∨ _))

/-- What `process_rx_fup` reads of its own and of `set_rtc_time_adjusted` and `rtc_update_servo`
before it is written. -/
structure ClockLocals extends SyncLocals where
  servo : ServoLocals
  timeNow : PtpTime

/-- What `process_rx_fup` does to the clock, with the port that it has stored a message in. -/
def RtcClock.steer (bigEndian : Bool) (locals : ClockLocals) (t : RtcClock n) (p : Fin n)
    (sync : SyncPort) : RtcClock n :=
  let t : RtcClock n :=
    { t with toServoSystem := t.setPort p ((t.ports p).sharing sync) }
  if sync.FarApart then
    if t.rtcChangesAllowed then
      (t.setIncrement t.nominalIncrement).setTimeAdjusted bigEndian locals.timeNow
        sync.syncTxTimestamp sync.syncRxTimestampTemp
    else t
  else { t with toServoSystem := rtcUpdateServo locals.servo t.toServoSystem p }

/-- `process_rx_fup` until it relays: what it stores in the instance, and the clock. -/
def fupClock (host : Host) (locals : ClockLocals) (s : SyncSystem n) (t : RtcClock n) (p : Fin n)
    (m : Mem) : Option (SyncSystem n × RtcClock n) :=
  if AcceptsFup s p m then
    (storeFup host locals.toSyncLocals (s.withSource m) p m).map fun u =>
      (u, t.steer host.bigEndian locals p (u.sync p))
  else some (s.withSource m, t)

/-- **The message is relayed** as if the clock were left alone. -/
theorem processRxFup_eq {host : Host} {clock : Fin n → Clock} {locals : ClockLocals}
    {currentSm : Bool} {s : SyncSystem n} {t : RtcClock n} {p : Fin n} {m : Mem} :
    processRxFup host clock locals.toSyncLocals currentSm s p m =
      (fupClock host locals s t p m).bind fun u =>
        if AcceptsFup s p m then if currentSm then some (relaySync host clock u.1) else none
        else some (u.1, []) := by
  by_cases haccepts : AcceptsFup s p m
  · rw [processRxFup_pos haccepts, fupClock, if_pos haccepts, Option.bind_map]
    simp only [haccepts, if_true, Function.comp_def]
  · rw [processRxFup_neg haccepts, fupClock, if_neg haccepts, Option.bind_some, if_neg haccepts]

/-! ### Calls -/

/-- What happens to the clock.  At a Follow_Up message the rest of the instance is as the announce
machines, the delay machines and the messages before it have left it. -/
inductive ClockInput (n : ℕ)
  | gptpSwInit (nominalIncrement : RtcIncrement)
  | ackGrandmasterChange
  | timerInterrupt (timeSinceBoot : Vector UInt8 4)
  | processRxFup (s : SyncSystem n) (p : Fin n) (locals : ClockLocals) (rxBuffer : Mem)

def clockStep (host : Host) (t : RtcClock n) : ClockInput n → Option (RtcClock n)
  | .gptpSwInit nominalIncrement => some (t.gptpSwInit nominalIncrement)
  | .ackGrandmasterChange => some t.ackGrandmasterChange
  | .timerInterrupt timeSinceBoot => some { t with timeSinceBoot := timeSinceBoot }
  | .processRxFup s p locals rxBuffer => (fupClock host locals s t p rxBuffer).map Prod.snd

end Gptp
