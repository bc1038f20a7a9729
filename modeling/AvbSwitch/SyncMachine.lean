/-
Sync and Follow_Up messages: `process_rx_sync`, `process_rx_fup` and `transmit_sync`.

A received Sync message is kept by its sequence number and its receive timestamp until a
Follow_Up message with the same number comes in; this is then relayed on the master ports.
The variable that holds the sequence number is also the one that `transmit_sync` counts up.

What `process_rx_fup` does to the clock itself, between the two, is no part of this: the
clock of each port that sends is given.
-/
import AvbSwitch.AnnounceFrame

open Octets

namespace Gptp

/-! ### State -/

/-- The variables of a port for Sync and Follow_Up messages. -/
structure SyncPort where
  rxPhyMacDelay : PtpTime
  neighborRateRatio : UInt32
  neighborPropDelay : UInt32
  neighborRateRatioValid : Bool
  syncRxTimestampTemp : PtpTime
  syncRxTimestamp : PtpTime
  syncTxTimestamp : PtpTime
  syncTimestampsValid : Bool
  cumulativeScaledRateOffset : UInt32
  syncSequenceId : UInt16
  syncSequenceIdValid : Bool
  waitingForFup : Bool

/-- An instance with the system-wide variables for Sync and Follow_Up messages. -/
structure SyncSystem (n : ℕ) where
  gptp : Gptpm n
  sync : Fin n → SyncPort
  /-- `properties.grandmasterIdentity` -/
  grandmasterIdentity : ClockIdentity
  upstreamTxTime : PtpTime
  rxPreciseOriginTimeStamp : PtpTime
  rxCorrectionField : PtpTime
  rateRatio : UInt32
  rxSourcePortIdentity : PortIdentity
  /-- `ptp_tx_buf` behind the Ethernet header -/
  ptpTxBuf : Mem

variable {n : ℕ}

/-- Change the variables of one port. -/
def SyncSystem.modify (s : SyncSystem n) (p : Fin n) (f : SyncPort → SyncPort) : SyncSystem n :=
  { s with sync := Function.update s.sync p (f (s.sync p)) }

/-- What the local variables hold before they are written, what lies behind `prop_delay`, and
the address of the rate offset in the frame, which is stored in place of the rate offset. -/
structure SyncLocals where
  correctionField : PtpTime
  syncTxTimestamp : PtpTime
  propDelayTime : PtpTime
  behindPropDelay : Vector UInt8 4
  cumulativeScaledRateOffsetPtr : UInt32

/-! ### Sending -/

/-- `memset` over the common header and the Follow_Up message, and what the Sync message has
in common with the Follow_Up message. -/
def syncHeader (host : Host) (s : SyncSystem n) (p : Fin n) : Mem :=
  let m := fill s.ptpTxBuf 0 0 (34 + 42)
  let m := put m 1 2
  let m := put m 6 0x2
  let m :=
    if s.gptp.grandMaster then putList m 20 (announcedIdentity s.grandmasterIdentity).toList
    else putList m 20 s.rxSourcePortIdentity.octets
  let m := put2 m 30 (host2Nets host.bigEndian (s.sync p).syncSequenceId.toNat)
  put m 33 (s.gptp.ports p).currentLogSyncInterval.toUInt8

/-- The Sync message as it is sent. -/
def syncFrame (host : Host) (s : SyncSystem n) (p : Fin n) (presentTime : PtpTime) : Mem :=
  let m := syncHeader host s p
  let m := put m 0 (0x10 ||| 0x0)
  let m := put2 m 2 (host2Nets host.bigEndian (34 + 10))
  let m := put m 32 0x0
  let m := putList m 34 (putTimestamp host.bigEndian presentTime)
  ptpexOsTxFrame m (34 + 10)

/-- The correction field of a Follow_Up message: of a slave the residence time is added to what
was received, and a grandmaster stores two octets of its nanoseconds. -/
def putCorrectionField (host : Host) (rtcTime presentTime : PtpTime) (s : SyncSystem n) (m : Mem) :
    Mem :=
  if s.gptp.grandMaster then
    let nsec := octetOf host.bigEndian rtcTime.nanoseconds.toUInt32
    put (put m 14 (nsec 2)) 15 (nsec 3)
  else
    let difference := timestampDifference presentTime s.upstreamTxTime
    let difference := { difference with secondsLower := difference.secondsLower * s.rateRatio }
    putList m 8 (putTimestamp host.bigEndian (timestampSum s.rxCorrectionField difference))

/-- The Follow_Up message as it is sent, built over the Sync message. -/
def followUpFrame (host : Host) (rtcTime presentTime : PtpTime) (s : SyncSystem n) (m : Mem) : Mem :=
  let m := put m 0 (0x10 ||| 0x8)
  let m := put m 32 0x2
  let m := put2 m 2 (host2Nets host.bigEndian (34 + 42))
  let m := putList m 34 (putTimestamp host.bigEndian s.rxPreciseOriginTimeStamp)
  let m := putCorrectionField host rtcTime presentTime s m
  let m := put2 m 44 (host2Nets host.bigEndian 0x3)
  let m := put2 m 46 (host2Nets host.bigEndian 28)
  let m := putList m 48 [0x00, 0x80, 0xC2, 0, 0, 1]
  ptpexOsTxFrame m (34 + 42)

/-- `transmit_sync`: the instance it leaves, the Sync message and the Follow_Up message.  The
clock does not go on while it runs. -/
def transmitSync (host : Host) (clock : Clock) (s : SyncSystem n) (p : Fin n) :
    SyncSystem n × Mem × Mem :=
  let s := s.modify p fun pp => { pp with syncSequenceId := pp.syncSequenceId + 1 }
  let presentTime := getRtcTime host.bigEndian clock.timeSinceBoot clock.leftover
  let sync := syncFrame host s p presentTime
  let egress := { presentTime with nanoseconds := presentTime.nanoseconds + 1 }
  let rtcTime := getRtcTime host.bigEndian clock.timeSinceBoot egress
  let s :=
    if s.gptp.grandMaster then
      { s with rxPreciseOriginTimeStamp := { rtcTime with secondsLower := 0, secondsUpper := 0 } }
    else s
  let followUp := followUpFrame host rtcTime egress s sync
  ({ s with ptpTxBuf := followUp }, sync, followUp)

/-! ### Receiving -/

/-- `get_correction_field`: the last two octets, shifted into the nanoseconds. -/
def getCorrectionField (m : Mem) (correctionField : PtpTime) : PtpTime where
  secondsUpper := 0
  secondsLower := 0
  nanoseconds :=
    (((correctionField.nanoseconds <<< 8) + (m 14).toUInt32.toInt32) <<< 8) +
      (m 15).toUInt32.toInt32

/-- The frame comes in on a slave port, from the source of the grandmaster's vector. -/
def FromMaster (s : SyncSystem n) (p : Fin n) (m : Mem) : Prop :=
  (s.gptp.ports p).selectedRole = .slave ∧
    getSourcePortId m = s.gptp.gmPriorityVector.sourcePortIdentity

instance (s : SyncSystem n) (p : Fin n) (m : Mem) : Decidable (FromMaster s p m) :=
  inferInstanceAs (Decidable (_ ∧ _))

/-- The receive timestamp that `process_rx_sync` keeps. -/
def syncReceiveTime (host : Host) (clock : Clock) (locals : SyncLocals) (rxPhyMacDelay : PtpTime)
    (m : Mem) : PtpTime :=
  let tempTimestamp := timestampDifference
    (getRtcTime host.bigEndian clock.timeSinceBoot clock.leftover) rxPhyMacDelay
  timestampDifference tempTimestamp (getCorrectionField m locals.correctionField)

/-- What `process_rx_sync` keeps of a Sync message from the master. -/
def keepSync (host : Host) (clock : Clock) (locals : SyncLocals) (m : Mem) (pp : SyncPort) :
    SyncPort :=
  { pp with
    syncRxTimestampTemp := syncReceiveTime host clock locals pp.rxPhyMacDelay m
    syncSequenceId := UInt16.ofNat (shortAt m 30).get
    syncSequenceIdValid := true
    waitingForFup := true }

/-- `process_rx_sync`. -/
def processRxSync (host : Host) (clock : Clock) (locals : SyncLocals) (s : SyncSystem n)
    (p : Fin n) (m : Mem) : SyncSystem n :=
  let s := { s with
    gptp := s.gptp.setPort p { s.gptp.ports p with syncTimeoutCounter := 0 } }
  if FromMaster s p m then s.modify p (keepSync host clock locals m) else s

/-- `process_rx_fup` takes the Follow_Up message. -/
def AcceptsFup (s : SyncSystem n) (p : Fin n) (m : Mem) : Prop :=
  FromMaster s p m ∧ (s.sync p).syncSequenceIdValid ∧
    (shortAt m 30).get = (s.sync p).syncSequenceId.toNat ∧ (s.sync p).waitingForFup

instance (s : SyncSystem n) (p : Fin n) (m : Mem) : Decidable (AcceptsFup s p m) :=
  inferInstanceAs (Decidable (_ ∧ _))

/-- What `process_rx_fup` writes to the port up to the rate offset. -/
def takeFup (host : Host) (locals : SyncLocals) (m : Mem) (pp : SyncPort) : SyncPort :=
  let syncTxTimestamp := getTimestamp host.bigEndian m 34 locals.syncTxTimestamp
  { pp with
    waitingForFup := false
    syncRxTimestamp := pp.syncRxTimestampTemp
    syncTxTimestamp := timestampSum syncTxTimestamp (getCorrectionField m locals.correctionField)
    syncTimestampsValid := true
    cumulativeScaledRateOffset := locals.cumulativeScaledRateOffsetPtr }

/-- The rate ratio, and the upstream transmit time from it.  It is not defined where it divides
by zero. -/
def updateRateRatio (host : Host) (locals : SyncLocals) (p : Fin n) (s : SyncSystem n) :
    Option (SyncSystem n) :=
  let pp := s.sync p
  if pp.neighborRateRatioValid then
    let rateRatio := (pp.cumulativeScaledRateOffset + 1) + (pp.neighborRateRatio - 1)
    let s := { s with rateRatio := rateRatio }
    if pp.neighborPropDelay = 0 then some s
    else if pp.neighborRateRatio = 0 ∨ rateRatio = 0 then none
    else
      let propDelay := pp.neighborPropDelay / pp.neighborRateRatio + 10 / rateRatio
      let propDelayTime := get32IntoTimestamp host.bigEndian propDelay locals.behindPropDelay
        locals.propDelayTime
      some { s with
        upstreamTxTime := timestampAbs (timestampDifference pp.syncRxTimestamp propDelayTime) }
  else some s

/-- What `process_rx_fup` does to the instance before it relays. -/
def storeFup (host : Host) (locals : SyncLocals) (s : SyncSystem n) (p : Fin n) (m : Mem) :
    Option (SyncSystem n) :=
  let s := s.modify p (takeFup host locals m)
  let s := { s with
    rxCorrectionField := getCorrectionField m locals.correctionField
    rxPreciseOriginTimeStamp := getTimestamp host.bigEndian m 34 locals.syncTxTimestamp }
  (updateRateRatio host locals p s).map fun s =>
    s.modify p fun pp => { pp with syncSequenceIdValid := false }

/-- One turn of the loop that relays: a master port sends. -/
def relayOn (host : Host) (clock : Fin n → Clock) (r : SyncSystem n × List (Fin n × Mem × Mem))
    (i : Fin n) : SyncSystem n × List (Fin n × Mem × Mem) :=
  if (r.1.gptp.ports i).selectedRole = .master then
    let sent := transmitSync host (clock i) r.1 i
    (sent.1, r.2 ++ [(i, sent.2)])
  else r

/-- The loop that relays: the instance it leaves, and what was sent. -/
def relaySync (host : Host) (clock : Fin n → Clock) (s : SyncSystem n) :
    SyncSystem n × List (Fin n × Mem × Mem) :=
  (List.finRange n).foldl (relayOn host clock) (s, [])

/-- `process_rx_fup`, with the clock of each port that it relays on.  It is not defined if it is
to relay and `current_sm` points nowhere. -/
def processRxFup (host : Host) (clock : Fin n → Clock) (locals : SyncLocals) (currentSm : Bool)
    (s : SyncSystem n) (p : Fin n) (m : Mem) :
    Option (SyncSystem n × List (Fin n × Mem × Mem)) :=
  let s := { s with rxSourcePortIdentity := getSourcePortId m }
  if AcceptsFup s p m then
    (storeFup host locals s p m).bind fun s =>
      if currentSm then some (relaySync host clock s) else none
  else some (s, [])

/-- What the function works on once it has read the source of a message. -/
def SyncSystem.withSource (s : SyncSystem n) (m : Mem) : SyncSystem n :=
  { s with rxSourcePortIdentity := getSourcePortId m }

variable {host : Host} {clock : Fin n → Clock} {c : Clock} {locals : SyncLocals}
  {s s' : SyncSystem n} {p i : Fin n} {m : Mem} {f : SyncPort → SyncPort} {currentSm : Bool}
  {sent : List (Fin n × Mem × Mem)}

theorem processRxFup_pos (h : AcceptsFup s p m) :
    processRxFup host clock locals currentSm s p m =
      (storeFup host locals (s.withSource m) p m).bind fun u =>
        if currentSm then some (relaySync host clock u) else none :=
  if_pos h

theorem processRxFup_neg (h : ¬ AcceptsFup s p m) :
    processRxFup host clock locals currentSm s p m = some (s.withSource m, []) :=
  if_neg h

/-- A message that is accepted is stored and then relayed. -/
theorem processRxFup_relays (haccepts : AcceptsFup s p m)
    (h : processRxFup host clock locals currentSm s p m = some (s', sent)) :
    ∃ u, storeFup host locals (s.withSource m) p m = some u ∧
      relaySync host clock u = (s', sent) := by
  rw [processRxFup_pos haccepts] at h
  obtain ⟨u, hstore, hrelay⟩ := Option.bind_eq_some_iff.mp h
  split at hrelay
  case isTrue => exact ⟨u, hstore, Option.some_inj.mp hrelay⟩
  case isFalse => cases hrelay

/-! ### What is left alone -/

@[simp] theorem SyncSystem.modify_self : (s.modify p f).sync p = f (s.sync p) := by
  simp only [SyncSystem.modify, Function.update_self]

@[simp] theorem SyncSystem.modify_of_ne (h : i ≠ p) : (s.modify p f).sync i = s.sync i := by
  simp only [SyncSystem.modify, Function.update_of_ne h]

/-- `transmit_sync` counts up the sequence number of its port. -/
theorem transmitSync_sync : (transmitSync host c s p).1.sync =
    (s.modify p fun pp => { pp with syncSequenceId := pp.syncSequenceId + 1 }).sync := by
  rw [transmitSync]
  dsimp only
  split <;> rfl

theorem transmitSync_gptp : (transmitSync host c s p).1.gptp = s.gptp := by
  rw [transmitSync]
  dsimp only
  split <;> rfl

/-- The sequence number after sending, if the port is a master. -/
def countedUp (s : SyncSystem n) (i : Fin n) (pp : SyncPort) : SyncPort :=
  if (s.gptp.ports i).selectedRole = .master then
    { pp with syncSequenceId := pp.syncSequenceId + 1 }
  else pp

theorem relayOn_spec {r : SyncSystem n × List (Fin n × Mem × Mem)} :
    (relayOn host clock r p).1.gptp = r.1.gptp ∧
      (relayOn host clock r p).1.sync = (r.1.modify p (countedUp r.1 p)).sync := by
  rw [relayOn]
  by_cases hmaster : (r.1.gptp.ports p).selectedRole = .master
  · rw [if_pos hmaster]
    refine ⟨transmitSync_gptp, transmitSync_sync.trans ?_⟩
    rw [SyncSystem.modify, SyncSystem.modify, countedUp, if_pos hmaster]
  · rw [if_neg hmaster]
    refine ⟨rfl, ?_⟩
    rw [SyncSystem.modify, countedUp, if_neg hmaster, Function.update_eq_self]

/-- The ports of a list have been through the loop, each of them once. -/
theorem relayOn_foldl {l : List (Fin n)} (hl : l.Nodup)
    {r : SyncSystem n × List (Fin n × Mem × Mem)} (hr : r.1.gptp = s.gptp) :
    (l.foldl (relayOn host clock) r).1.gptp = s.gptp ∧
      ∀ i, (l.foldl (relayOn host clock) r).1.sync i =
        if i ∈ l then countedUp s i (r.1.sync i) else r.1.sync i := by
  induction l generalizing r with
  | nil => exact ⟨hr, fun i => (if_neg List.not_mem_nil).symm⟩
  | cons j l ih =>
    obtain ⟨hj, hl⟩ := List.nodup_cons.mp hl
    obtain ⟨hgptp, hsync⟩ := @relayOn_spec n host clock j r
    obtain ⟨hgptp', hsync'⟩ := ih hl (hgptp.trans hr)
    -- the roles are those that the loop began with
    have hcounted : countedUp r.1 j = countedUp s j := by
      funext pp
      rw [countedUp, countedUp, hr]
    refine ⟨hgptp', fun i => (hsync' i).trans ?_⟩
    rw [hsync, hcounted]
    by_cases hi : i = j
    · subst hi
      rw [if_neg hj, if_pos List.mem_cons_self, SyncSystem.modify_self]
    · rw [SyncSystem.modify_of_ne hi]
      simp only [List.mem_cons, hi, false_or]

/-- **The relay sends once on each master port.** -/
theorem relaySync_spec : (relaySync host clock s).1.gptp = s.gptp ∧
    ∀ i, (relaySync host clock s).1.sync i = countedUp s i (s.sync i) := by
  obtain ⟨hgptp, hsync⟩ := @relayOn_foldl n host clock s _ (List.nodup_finRange n) (s, []) rfl
  exact ⟨hgptp, fun i => (hsync i).trans (if_pos (List.mem_finRange i))⟩

/-- The rate ratio and the upstream transmit time are the only variables that it writes. -/
theorem updateRateRatio_frame (h : updateRateRatio host locals p s = some s') :
    ∃ rateRatio upstreamTxTime,
      s' = { s with rateRatio := rateRatio, upstreamTxTime := upstreamTxTime } := by
  rw [updateRateRatio] at h
  dsimp only at h
  split_ifs at h <;> exact ⟨_, _, (Option.some_inj.mp h).symm⟩

/-- Taking a Follow_Up message ends the wait for it, and leaves the other ports alone. -/
theorem storeFup_spec (h : storeFup host locals s p m = some s') :
    s'.gptp = s.gptp ∧ (s'.sync p).syncSequenceIdValid = false ∧
      ∀ i, i ≠ p → s'.sync i = s.sync i := by
  obtain ⟨u, hu, rfl⟩ := Option.map_eq_some_iff.mp h
  -- the rate ratio is written between taking the message and ending the wait
  obtain ⟨rateRatio, upstreamTxTime, rfl⟩ := updateRateRatio_frame hu
  refine ⟨rfl, ?_, fun i hi => ?_⟩
  · rw [SyncSystem.modify_self]
  · rw [SyncSystem.modify_of_ne hi]
    exact SyncSystem.modify_of_ne hi

end Gptp
