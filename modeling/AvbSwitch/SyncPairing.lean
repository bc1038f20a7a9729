/-
Which Sync message a Follow_Up message is paired with.

A Follow_Up message should be taken for the last Sync message that was accepted on its port.
Of this the instance keeps no more than the sequence number, in a variable that is also
counted up for each message the port sends itself, and not the source, which is compared with
the grandmaster's vector of the moment.  A history of the Sync messages is kept beside the
instance (`Pairing`); no function of the program reads it.

* `PairSound` — what the variables of a port that waits say about the last Sync message;
* `paired_along_iff` — each Follow_Up message that is accepted belongs to that Sync message
  exactly if, each time, the port has sent no Sync message in between, or a multiple of 65536,
  and the grandmaster's vector has the same source as then.
-/
import AvbSwitch.SelectedMaster
import AvbSwitch.SyncMachine

open Octets

namespace Gptp

variable {n : ℕ}

/-! ### Runs -/

/-- What happens to an instance: whatever changes roles and grandmasters, and Sync and
Follow_Up messages. -/
inductive SyncInput (n : ℕ)
  | announce (input : Input n)
  | processRxSync (p : Fin n) (clock : Clock) (locals : SyncLocals) (rxBuffer : Mem)
  | processRxFup (p : Fin n) (clock : Fin n → Clock) (locals : SyncLocals) (currentSm : Bool)
      (rxBuffer : Mem)
  | transmitSync (p : Fin n) (clock : Clock)
  | setNeighbor (p : Fin n) (rateRatio propDelay : UInt32) (valid : Bool)

/-- What the exchange of delay messages measures. -/
def setNeighbor (rateRatio propDelay : UInt32) (valid : Bool) (pp : SyncPort) : SyncPort :=
  { pp with
    neighborRateRatio := rateRatio
    neighborPropDelay := propDelay
    neighborRateRatioValid := valid }

def syncStep (host : Host) (s : SyncSystem n) : SyncInput n → Option (SyncSystem n)
  | .announce input => (step host.bigEndian s.gptp input).map fun t => { s with gptp := t }
  | .processRxSync p clock locals rxBuffer => some (processRxSync host clock locals s p rxBuffer)
  | .processRxFup p clock locals currentSm rxBuffer =>
    (processRxFup host clock locals currentSm s p rxBuffer).map Prod.fst
  | .transmitSync p clock => some (transmitSync host clock s p).1
  | .setNeighbor p rateRatio propDelay valid =>
    some (s.modify p (setNeighbor rateRatio propDelay valid))

/-- `gptp_sw_init`, with the delay of the platform and what the buffer holds. -/
def SyncSystem.swInit (mac : Vector UInt8 6) (systemConfig : SystemConfig)
    (portConfig : Fin n → PortConfig) (rxPhyMacDelay : PtpTime) (ptpTxBuf : Mem) :
    SyncSystem n where
  gptp := gptpSwInit mac (staticMemory systemConfig portConfig)
  sync _ :=
    { rxPhyMacDelay := rxPhyMacDelay
      neighborRateRatio := 0
      neighborPropDelay := 0
      neighborRateRatioValid := false
      syncRxTimestampTemp := ⟨0, 0, 0⟩
      syncRxTimestamp := ⟨0, 0, 0⟩
      syncTxTimestamp := ⟨0, 0, 0⟩
      syncTimestampsValid := false
      cumulativeScaledRateOffset := 0
      syncSequenceId := 0
      syncSequenceIdValid := false
      waitingForFup := false }
  grandmasterIdentity := clockIdentityOf mac
  upstreamTxTime := ⟨0, 0, 0⟩
  rxPreciseOriginTimeStamp := ⟨0, 0, 0⟩
  rxCorrectionField := ⟨0, 0, 0⟩
  rateRatio := 0
  rxSourcePortIdentity := ⟨Vector.replicate 8 0, ⟨0, 0⟩⟩
  ptpTxBuf := ptpTxBuf

/-! ### The history -/

/-- A Sync message that was accepted. -/
structure SyncReception where
  frame : Mem
  /-- when it was received -/
  received : PtpTime
  /-- the source of the grandmaster's vector at that time -/
  master : PortIdentity
  /-- how many Sync messages the port has sent since -/
  transmissions : ℕ
  /-- how many Follow_Up messages were taken for it -/
  followUps : ℕ

def SyncReception.sent (sync : SyncReception) : SyncReception :=
  { sync with transmissions := sync.transmissions + 1 }

def SyncReception.followed (sync : SyncReception) : SyncReception :=
  { sync with followUps := sync.followUps + 1 }

/-- An instance, and the last Sync message that was accepted on each port. -/
structure Pairing (n : ℕ) where
  system : SyncSystem n
  lastSync : Fin n → Option SyncReception

def Pairing.init (s : SyncSystem n) : Pairing n := ⟨s, fun _ => none⟩

/-- What a step does to the history. -/
def Pairing.record (host : Host) (r : Pairing n) : SyncInput n → Fin n → Option SyncReception
  | .processRxSync p clock locals rxBuffer =>
    if FromMaster r.system p rxBuffer then
      Function.update r.lastSync p (some
        { frame := rxBuffer
          received := syncReceiveTime host clock locals (r.system.sync p).rxPhyMacDelay rxBuffer
          master := r.system.gptp.gmPriorityVector.sourcePortIdentity
          transmissions := 0
          followUps := 0 })
    else r.lastSync
  | .processRxFup p _ _ _ rxBuffer =>
    if AcceptsFup r.system p rxBuffer then fun i =>
      if i = p then (r.lastSync i).map SyncReception.followed
      else if (r.system.gptp.ports i).selectedRole = .master then
        (r.lastSync i).map SyncReception.sent
      else r.lastSync i
    else r.lastSync
  | .transmitSync p _ => Function.update r.lastSync p ((r.lastSync p).map SyncReception.sent)
  | _ => r.lastSync

/-- A step and its record. -/
def pairStep (host : Host) (r : Pairing n) (input : SyncInput n) : Option (Pairing n) :=
  (syncStep host r.system input).map fun s => ⟨s, r.record host input⟩

/-! ### The pairs -/

/-- A Follow_Up message that is accepted has the sequence number and the source of the last
Sync message that was accepted on the port, the receive timestamp that is stored with it is
that of this message, and none was taken for it before. -/
def Paired (host : Host) (r : Pairing n) (input : SyncInput n) : Prop :=
  ∀ p clock locals currentSm rxBuffer,
    input = .processRxFup p clock locals currentSm rxBuffer → AcceptsFup r.system p rxBuffer →
      ∃ sync, r.lastSync p = some sync ∧ shortAt rxBuffer 30 = shortAt sync.frame 30 ∧
        getSourcePortId rxBuffer = getSourcePortId sync.frame ∧
        (takeFup host locals rxBuffer (r.system.sync p)).syncRxTimestamp = sync.received ∧
        sync.followUps = 0

/-- When a Follow_Up message is accepted, the sequence number and the master are those that the
last Sync message left. -/
def Unchanged (r : Pairing n) (input : SyncInput n) : Prop :=
  ∀ p clock locals currentSm rxBuffer,
    input = .processRxFup p clock locals currentSm rxBuffer → AcceptsFup r.system p rxBuffer →
      ∀ sync, r.lastSync p = some sync → 65536 ∣ sync.transmissions ∧
        r.system.gptp.gmPriorityVector.sourcePortIdentity = sync.master

/-- What the variables of a port that waits for a Follow_Up message say about the last Sync
message. -/
def Waits (pp : SyncPort) (lastSync : Option SyncReception) : Prop :=
  pp.syncSequenceIdValid → ∃ sync, lastSync = some sync ∧
    pp.syncRxTimestampTemp = sync.received ∧
    pp.syncSequenceId.toNat = ((shortAt sync.frame 30).get + sync.transmissions) % 65536 ∧
    sync.master = getSourcePortId sync.frame ∧ sync.followUps = 0

/-- What holds of an instance and its history in every state. -/
def PairSound (r : Pairing n) : Prop := ∀ i, Waits (r.system.sync i) (r.lastSync i)

variable {host : Host} {r r' : Pairing n} {input : SyncInput n} {pp : SyncPort}
  {lastSync : Option SyncReception} {p i : Fin n} {s s' : SyncSystem n} {m : Mem} {clock : Clock}
  {locals : SyncLocals}

/-- Both numbers are counted up. -/
theorem Waits.sent (h : Waits pp lastSync) :
    Waits { pp with syncSequenceId := pp.syncSequenceId + 1 } (lastSync.map SyncReception.sent) := by
  intro hvalid
  obtain ⟨sync, rfl, hreceived, hseq, hmaster, hfollowUps⟩ := h hvalid
  refine ⟨sync.sent, rfl, hreceived, ?_, hmaster, hfollowUps⟩
  show (pp.syncSequenceId + 1).toNat = ((shortAt sync.frame 30).get + (sync.transmissions + 1)) % 65536
  -- one more on both sides, the left one modulo 65536
  rw [UInt16.toNat_add, hseq, UInt16.toNat_one]
  omega

theorem Waits.of_not_valid (h : pp.syncSequenceIdValid = false) : Waits pp lastSync := by
  intro hvalid
  exact absurd (h.symm.trans hvalid) nofun

theorem Waits.countedUp (h : Waits pp lastSync) :
    Waits (countedUp s i pp)
      (if (s.gptp.ports i).selectedRole = .master then lastSync.map SyncReception.sent
        else lastSync) := by
  rw [Gptp.countedUp]
  split
  · exact h.sent
  · exact h

/-- What the timeout counter is says nothing about the role and the master of a port. -/
theorem fromMaster_setPort {counter : UInt32} :
    FromMaster { s with
      gptp := s.gptp.setPort p { s.gptp.ports p with syncTimeoutCounter := counter } } p m ↔
        FromMaster s p m := by
  have hgm : (s.gptp.setPort p
      { s.gptp.ports p with syncTimeoutCounter := counter }).gmPriorityVector =
        s.gptp.gmPriorityVector :=
    Gptpm.setPort_gmPriorityVector rfl
  rw [FromMaster, FromMaster, hgm, Gptpm.setPort_ports_self]

/-- `process_rx_sync` keeps a message from the master, and nothing else. -/
theorem processRxSync_sync : (processRxSync host clock locals s p m).sync =
    if FromMaster s p m then (s.modify p (keepSync host clock locals m)).sync else s.sync := by
  rw [processRxSync]
  dsimp only
  by_cases hmaster : FromMaster s p m
  · rw [if_pos hmaster, if_pos (fromMaster_setPort.mpr hmaster)]
    rfl
  · rw [if_neg hmaster, if_neg (fun h => hmaster (fromMaster_setPort.mp h))]

/-- A message that is kept is the last one, and nothing was sent since. -/
theorem keepSync_waits (hmaster : FromMaster s p m) :
    Waits (keepSync host clock locals m pp) (some
      { frame := m
        received := syncReceiveTime host clock locals pp.rxPhyMacDelay m
        master := s.gptp.gmPriorityVector.sourcePortIdentity
        transmissions := 0
        followUps := 0 }) := by
  intro _
  refine ⟨_, rfl, rfl, ?_, hmaster.2.symm, rfl⟩
  show (UInt16.ofNat (shortAt m 30).get).toNat = ((shortAt m 30).get + 0) % 65536
  rw [UInt16.toNat_ofNat', Nat.add_zero]

/-- After a Follow_Up message is taken its port waits no more, and the master ports have sent. -/
theorem processRxFup_of_accepts {clock : Fin n → Clock} {currentSm : Bool}
    {sent : List (Fin n × Mem × Mem)} (haccepts : AcceptsFup s p m)
    (h : processRxFup host clock locals currentSm s p m = some (s', sent)) :
    (s'.sync p).syncSequenceIdValid = false ∧
      ∀ i, i ≠ p → s'.sync i = Gptp.countedUp s i (s.sync i) := by
  obtain ⟨u, hstore, hrelay⟩ := processRxFup_relays haccepts h
  obtain ⟨hgptp, hself, hother⟩ := storeFup_spec hstore
  obtain ⟨-, hsync⟩ := @relaySync_spec n host clock u
  rw [hrelay] at hsync
  refine ⟨?_, fun i hi => ?_⟩
  · rw [hsync p, Gptp.countedUp]
    split <;> exact hself
  · rw [hsync i, hother i hi, Gptp.countedUp, Gptp.countedUp, hgptp]
    rfl

/-- A Follow_Up message that is not taken leaves the ports as they are. -/
theorem processRxFup_of_not_accepts {clock : Fin n → Clock} {currentSm : Bool}
    {sent : List (Fin n × Mem × Mem)} (haccepts : ¬ AcceptsFup s p m)
    (h : processRxFup host clock locals currentSm s p m = some (s', sent)) : s'.sync = s.sync := by
  rw [processRxFup_neg haccepts] at h
  obtain ⟨rfl, -⟩ := Prod.mk.inj (Option.some_inj.mp h)
  rfl

/-- A port is changed together with its entry of the history. -/
theorem waits_modify {lasts : Fin n → Option SyncReception} {f : SyncPort → SyncPort}
    (h : ∀ i, Waits (s.sync i) (lasts i)) (hp : Waits (f (s.sync p)) lastSync) (i : Fin n) :
    Waits ((s.modify p f).sync i) (Function.update lasts p lastSync i) := by
  by_cases hi : i = p
  · subst hi
    rw [SyncSystem.modify_self, Function.update_self]
    exact hp
  · rw [SyncSystem.modify_of_ne hi, Function.update_of_ne hi]
    exact h i

/-- **Every step keeps the history sound.** -/
theorem PairSound.step (hr : PairSound r) (h : pairStep host r input = some r') : PairSound r' := by
  obtain ⟨s, hs, rfl⟩ := Option.map_eq_some_iff.mp h
  intro i
  cases input with
  | announce input =>
    obtain ⟨t, -, rfl⟩ := Option.map_eq_some_iff.mp hs
    exact hr i
  | processRxSync p clock locals m =>
    obtain rfl := Option.some_inj.mp hs
    show Waits ((processRxSync host clock locals r.system p m).sync i)
      (r.record host (.processRxSync p clock locals m) i)
    rw [processRxSync_sync, Pairing.record]
    split
    case isTrue hmaster => exact waits_modify hr (keepSync_waits hmaster) i
    case isFalse => exact hr i
  | processRxFup p clock locals currentSm m =>
    obtain ⟨⟨s, sent⟩, hfup, rfl⟩ := Option.map_eq_some_iff.mp hs
    show Waits (s.sync i) (r.record host (.processRxFup p clock locals currentSm m) i)
    rw [Pairing.record]
    by_cases haccepts : AcceptsFup r.system p m
    · obtain ⟨hself, hother⟩ := processRxFup_of_accepts haccepts hfup
      rw [if_pos haccepts]
      -- the port itself waits no more; each master port has sent one message
      by_cases hi : i = p
      · subst hi
        exact .of_not_valid hself
      · rw [hother i hi, if_neg hi]
        exact (hr i).countedUp
    · rw [if_neg haccepts, processRxFup_of_not_accepts haccepts hfup]
      exact hr i
  | transmitSync p clock =>
    obtain rfl := Option.some_inj.mp hs
    show Waits ((transmitSync host clock r.system p).1.sync i) (Function.update r.lastSync p _ i)
    rw [transmitSync_sync]
    exact waits_modify hr (hr p).sent i
  | setNeighbor p rateRatio propDelay valid =>
    obtain rfl := Option.some_inj.mp hs
    show Waits ((r.system.modify p (setNeighbor rateRatio propDelay valid)).sync i) (r.lastSync i)
    -- the history of the port is put back as it was
    rw [← Function.update_eq_self p r.lastSync]
    exact waits_modify hr (hr p) i

theorem pairing_init_sound {mac : Vector UInt8 6} {systemConfig : SystemConfig}
    {portConfig : Fin n → PortConfig} {rxPhyMacDelay : PtpTime} {ptpTxBuf : Mem} :
    PairSound (.init (SyncSystem.swInit mac systemConfig portConfig rxPhyMacDelay ptpTxBuf)) :=
  fun _ => .of_not_valid rfl

/-! ### Runs -/

/-- Two sequence numbers agree exactly if what was counted between them is a multiple of their
range. -/
theorem counted_eq_iff {a b k : ℕ} (ha : a < 65536) (hb : b = (a + k) % 65536) :
    b = a ↔ 65536 ∣ k := by
  omega

/-- A Follow_Up message that is accepted is the one of the last Sync message exactly if the
sequence number and the master are what that message left. -/
theorem paired_iff (hr : PairSound r) : Paired host r input ↔ Unchanged r input := by
  refine forall_congr' fun p => forall_congr' fun clock => forall_congr' fun locals =>
    forall_congr' fun currentSm => forall_congr' fun m => forall_congr' fun _ =>
    forall_congr' fun haccepts => ?_
  -- that it is accepted means that the port waits, so that there is a last Sync message
  obtain ⟨⟨-, hsource⟩, hvalid, hnumber, -⟩ := haccepts
  obtain ⟨sync, hlast, hreceived, hseq, hmaster, hfollowUps⟩ := hr p hvalid
  have hcounted := counted_eq_iff (shortAt sync.frame 30).get_lt hseq
  rw [hlast]
  constructor
  · rintro ⟨sync', hsync', hnumber', hsource', -, -⟩ sync'' hsync''
    obtain rfl := Option.some_inj.mp hsync'
    obtain rfl := Option.some_inj.mp hsync''
    refine ⟨hcounted.mp ?_, ?_⟩
    · rw [← hnumber, hnumber']
    · rw [← hsource, hsource', hmaster]
  · intro h
    obtain ⟨htransmissions, hgm⟩ := h sync rfl
    refine ⟨sync, rfl, Short.get_inj.mp ?_, ?_, hreceived, hfollowUps⟩
    · rw [hnumber, hcounted.mpr htransmissions]
    · rw [hsource, hgm, hmaster]

/-- **Follow_Up messages along a run.**  From `gptp_sw_init` on, each Follow_Up message that is
accepted belongs to the last Sync message that was accepted on its port, exactly if each time
neither the sequence number nor the master has changed since. -/
theorem paired_along_iff (host : Host) (mac : Vector UInt8 6) (systemConfig : SystemConfig)
    (portConfig : Fin n → PortConfig) (rxPhyMacDelay : PtpTime) (ptpTxBuf : Mem)
    (inputs : List (SyncInput n)) :
    Runs.AtEach (pairStep host) (Paired host)
        (.init (SyncSystem.swInit mac systemConfig portConfig rxPhyMacDelay ptpTxBuf)) inputs ↔
      Runs.AtEach (pairStep host) Unchanged
        (.init (SyncSystem.swInit mac systemConfig portConfig rxPhyMacDelay ptpTxBuf)) inputs :=
  Runs.atEach_congr PairSound.step (fun _ _ _ hr => paired_iff hr) pairing_init_sound

/-! ### A Follow_Up message from another master -/

/-- An Announce message of a grandmaster with priority `priority1` and the clock identity that
ends in `source`. -/
def announceFrom (priority1 source : UInt8) : Mem := fun k =>
  if k = 47 then priority1 else if k = 20 ∨ k = 53 then source else 0

/-- A message with this source and the sequence number 5. -/
def messageFrom (source : UInt8) : Mem := fun k =>
  if k = 20 then source else if k = 31 then 5 else 0

def blankLocals : SyncLocals :=
  ⟨⟨0, 0, 0⟩, ⟨0, 0, 0⟩, ⟨0, 0, 0⟩, Vector.replicate 4 0, 0⟩

/-- Port 0 accepts the Sync message of a grandmaster, which is then replaced by a better one on
the same port. -/
def masterReplaced : List (SyncInput 2) :=
  (becomesSlave (announceFrom 100 1)).map .announce ++
    [.processRxSync port0 atBoot blankLocals (messageFrom 1),
      .announce (.processRxAnnounce port0 (announceFrom 50 2)),
      .announce (.portAnnounceInformation port0), .announce .portRoleSelection]

/-- **A Follow_Up message of the new master.**  It is taken for the Sync message of the old
one. -/
theorem followUp_of_new_master :
    ¬ Runs.AtEach (pairStep bigEndianHost) (Paired bigEndianHost)
      (.init (SyncSystem.swInit #v[0x00, 0x0A, 0x35, 0x00, 0x22, 0xFF] ⟨248, 248⟩
        (fun _ => ⟨3, 3⟩) ⟨0, 0, 0⟩ fun _ => 0))
      (masterReplaced ++ [.processRxFup 0 (fun _ => atBoot) blankLocals true (messageFrom 2)]) := by
  intro h
  have hrun : (Runs.run (pairStep bigEndianHost)
      (.init (SyncSystem.swInit #v[0x00, 0x0A, 0x35, 0x00, 0x22, 0xFF] ⟨248, 248⟩
        (fun _ => ⟨3, 3⟩) ⟨0, 0, 0⟩ fun _ => 0)) masterReplaced).map
      (fun r => (decide (AcceptsFup r.system 0 (messageFrom 2)),
        (r.lastSync 0).map fun sync => getSourcePortId sync.frame)) =
      some (true, some (getSourcePortId (messageFrom 1))) := by
    decide +kernel
  obtain ⟨r, hr, heq⟩ := Option.map_eq_some_iff.mp hrun
  obtain ⟨haccepts, hlast⟩ := Prod.mk.inj heq
  obtain ⟨sync, hsync, -, hsource, -⟩ := h.last hr 0 _ _ _ _ rfl (of_decide_eq_true haccepts)
  rw [hsync] at hlast
  exact absurd (hsource.trans (Option.some_inj.mp hlast)) (by decide)

end Gptp
