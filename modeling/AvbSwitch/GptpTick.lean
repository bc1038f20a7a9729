/-
One tick of an instance: `vtss_gptp_tick` and the worker behind it.

The worker selects the roles, sends on the master ports and runs the machines of each port.  What
LinkDelaySyncIntervalSetting and MDPdelayReq leave of a port for the rest of the tick is given
(`DelayVerdict`), so that what is proved of a tick holds whatever they measure;
`delayMachines_verdict` says that they leave no more than that, and `run_runsAs`, where the machines
are run themselves, that a run of the instance is one of the module with their verdicts.

* `vtssGptpTick_ticked` — what a tick does to the ports, as far as the announce machines see it;
* `moduleStep_currentSm` — no work is left unfinished between two calls of the module.
-/
import AvbSwitch.AnnounceSettling
import AvbSwitch.PortIsolation
import AvbSwitch.SyncPairing

open Octets

namespace Gptp

/-! ### The delay machines -/

/-- What LinkDelaySyncIntervalSetting and MDPdelayReq leave in the variables that the rest of a
tick reads. -/
structure DelayVerdict where
  asCapable : Bool
  portEnabled : Bool
  currentLogSyncInterval : UInt32
  neighborRateRatio : UInt32
  neighborPropDelay : UInt32
  neighborRateRatioValid : Bool
  /-- the request is built in the buffer of the other frames -/
  ptpTxBuf : Mem

def Port.withVerdict (pp : Port) (verdict : DelayVerdict) : Port :=
  { pp with
    asCapable := verdict.asCapable
    portEnabled := verdict.portEnabled
    currentLogSyncInterval := verdict.currentLogSyncInterval }

/-- The two machines on one port, as `vtss_gptp_more_work` runs them. -/
def delayMachines (fuel : ℕ) (host : Host) (clock : Clock) (t : PdelaySystem) (p : UInt8) :
    Option PdelaySystem :=
  (linkDelaySyncIntervalSettingOn t p).bind fun t =>
    let t := t.modify p fun pp => { pp with pdelayIntervalTimer := pp.pdelayIntervalTimer + 1 }
    (mdPdelayReqStateMachine fuel host clock t p).map Prod.fst

section DelayMachines

variable {host : Host} {clock : Clock} {t t' w : PdelaySystem} {p q : UInt8} {pp pp' : PdelayPort}
  {s : MDPdelayReqState} {fuel : ℕ} {entries : List PdelayPort}

/-- The variables of the announce machines are the same, but for those of a verdict. -/
def SameButVerdict (port port' : Port) : Prop :=
  ∃ verdict, port' = port.withVerdict verdict

/-- What a port would have without the delay machines. -/
def Port.ownVerdict (pp : Port) : DelayVerdict :=
  ⟨pp.asCapable, pp.portEnabled, pp.currentLogSyncInterval, 0, 0, false, fun _ => 0⟩

theorem SameButVerdict.refl {port : Port} : SameButVerdict port port := ⟨port.ownVerdict, rfl⟩

theorem SameButVerdict.trans {a b c : Port} (h : SameButVerdict a b) (h' : SameButVerdict b c) :
    SameButVerdict a c := by
  obtain ⟨v, rfl⟩ := h
  obtain ⟨v', rfl⟩ := h'
  exact ⟨v', rfl⟩

/-- Of the variables of the announce machines, only those of a verdict are written, and only on
port `p`. -/
structure LeavesVerdict (p : UInt8) (t t' : PdelaySystem) : Prop where
  self : SameButVerdict (t.ports p).toPort (t'.ports p).toPort
  others : ∀ q, q ≠ p → (t'.ports q).toPort = (t.ports q).toPort

theorem LeavesVerdict.refl : LeavesVerdict p t t := ⟨.refl, fun _ _ => rfl⟩

theorem LeavesVerdict.trans (h : LeavesVerdict p t t') (h' : LeavesVerdict p t' w) :
    LeavesVerdict p t w :=
  ⟨h.self.trans h'.self, fun q hq => (h'.others q hq).trans (h.others q hq)⟩

theorem LeavesVerdict.modify {f : PdelayPort → PdelayPort} (h : LeavesVerdict p t w)
    (hf : ∀ pp : PdelayPort, SameButVerdict pp.toPort (f pp).toPort) :
    LeavesVerdict p t (w.modify p f) := by
  refine ⟨?_, fun q hq => ?_⟩
  · rw [PdelaySystem.modify_self]
    exact h.self.trans (hf _)
  · rw [PdelaySystem.modify_of_ne hq]
    exact h.others q hq

/-- Not even on port 8 a request writes them. -/
theorem transmitPdelayRequest_toPort :
    ((transmitPdelayRequest host clock t p).ports q).toPort = (t.ports q).toPort := by
  simp only [transmitPdelayRequest]
  by_cases h8 : q = 8
  · rw [h8, PdelaySystem.modify_self]
    by_cases hp : 8 = p
    · rw [← hp, PdelaySystem.modify_self, PdelaySystem.modify_self]
    · rw [PdelaySystem.modify_of_ne hp, PdelaySystem.modify_of_ne hp]
  · rw [PdelaySystem.modify_of_ne h8]
    by_cases hq : q = p
    · rw [hq, PdelaySystem.modify_self, PdelaySystem.modify_self]
    · rw [PdelaySystem.modify_of_ne hq, PdelaySystem.modify_of_ne hq]

theorem LeavesVerdict.transmit (h : LeavesVerdict p t w) :
    LeavesVerdict p t (transmitPdelayRequest host clock w p) := by
  refine ⟨?_, fun q hq => ?_⟩
  · rw [transmitPdelayRequest_toPort]
    exact h.self
  · rw [transmitPdelayRequest_toPort]
    exact h.others q hq

theorem mdPdelayReqSetState_leaves :
    LeavesVerdict p t (mdPdelayReqSetState host clock t p s) := by
  have hstate : LeavesVerdict p t (t.modify p fun pp => { pp with mdPdelayReqState := s }) :=
    LeavesVerdict.refl.modify fun _ => .refl
  have hincapable : ∀ pp : PdelayPort,
      SameButVerdict pp.toPort { pp.toPort with asCapable := false } :=
    fun pp => ⟨{ pp.toPort.ownVerdict with asCapable := false }, rfl⟩
  cases s with
  | notEnabled =>
    simp only [mdPdelayReqSetState]
    exact hstate.modify fun pp => hincapable pp
  | initialSendPdelayReq =>
    simp only [mdPdelayReqSetState]
    refine LeavesVerdict.modify (LeavesVerdict.transmit (LeavesVerdict.modify hstate ?_)) ?_
    · exact fun _ => .refl
    · exact hincapable
  | reset =>
    simp only [mdPdelayReqSetState]
    refine hstate.modify fun pp => ?_
    split
    · exact .refl
    · exact hincapable pp
  | sendPdelayReq =>
    simp only [mdPdelayReqSetState]
    refine LeavesVerdict.modify (LeavesVerdict.transmit (LeavesVerdict.modify hstate ?_)) ?_
    · exact fun _ => .refl
    · intro pp
      split_ifs
      · exact .refl
      · exact ⟨{ pp.toPort.ownVerdict with portEnabled := false }, rfl⟩
      · exact .refl
      · exact .refl
  | waitingForPdelayResp | waitingForPdelayRespFollowUp =>
    simp only [mdPdelayReqSetState]
    exact hstate.modify fun _ => .refl
  | waitingForPdelayIntervalTimer =>
    simp only [mdPdelayReqSetState]
    refine hstate.modify fun pp => ?_
    obtain ⟨received, txI, rxI, ratio, valid, delay, hcomputed⟩ := @computeDelays_frame
      { pp with
        rcvdPdelayRespFollowUp := false
        pdelayRespTxTimestamp :=
          { time := getTimestamp host.bigEndian pp.rcvdPdelayRespFollowUpPtr.octets 34
              pp.pdelayRespTxTimestamp.time
            frame := pp.rcvdPdelayRespFollowUpPtr } }
    rw [hcomputed]
    exact ⟨{ pp.toPort.ownVerdict with asCapable := _ }, rfl⟩

theorem EntersFrom.leaves (h : EntersFrom host clock p t w s) :
    LeavesVerdict p t (mdPdelayReqSetState host clock w p s) := by
  induction h with
  | disabled | first => exact mdPdelayReqSetState_leaves
  | next _ _ _ ih => exact ih.trans mdPdelayReqSetState_leaves

theorem linkDelaySyncIntervalSettingSetState_leaves
    {st : LinkDelaySyncIntervalSettingState} :
    SameButVerdict pp.toPort (linkDelaySyncIntervalSettingSetState pp st).toPort := by
  cases st with
  | notEnabled => exact .refl
  | initialized => exact ⟨{ pp.toPort.ownVerdict with currentLogSyncInterval := _ }, rfl⟩
  | setIntervals => exact ⟨{ pp.toPort.ownVerdict with currentLogSyncInterval := _ }, rfl⟩

theorem linkDelaySyncIntervalSettingStateMachine_leaves
    (h : linkDelaySyncIntervalSettingStateMachine pp = some pp') :
    SameButVerdict pp.toPort pp'.toPort :=
  linkDelaySyncIntervalSettingStateMachine_keeps
    (R := fun pp pp' => SameButVerdict pp.toPort pp'.toPort) (fun _ => .refl) .trans
    (fun _ _ => linkDelaySyncIntervalSettingSetState_leaves) h

/-- **The delay machines leave a verdict** on their port, and nothing else that the announce
machines could see. -/
theorem delayMachines_verdict (h : delayMachines fuel host clock t p = some t') :
    LeavesVerdict p t t' := by
  obtain ⟨u, hu, h⟩ := Option.bind_eq_some_iff.mp h
  obtain ⟨pp, hpp, rfl⟩ := Option.map_eq_some_iff.mp hu
  obtain ⟨⟨w, es⟩, hw, rfl⟩ := Option.map_eq_some_iff.mp h
  -- the timer is no variable of the announce machines
  have hlink : LeavesVerdict p t ((t.modify p fun _ => pp).modify p fun pp =>
      { pp with pdelayIntervalTimer := pp.pdelayIntervalTimer + 1 }) := by
    refine LeavesVerdict.modify ⟨?_, fun q hq => ?_⟩ fun _ => .refl
    · rw [PdelaySystem.modify_self]
      exact linkDelaySyncIntervalSettingStateMachine_leaves hpp
    · rw [PdelaySystem.modify_of_ne hq]
  obtain ⟨v, hv, hw⟩ := mdPdelayReqStateMachine_enters hw
  have hv : LeavesVerdict p t v := by
    rcases hv with rfl | ⟨x, s, henters, rfl⟩
    · exact hlink
    · exact hlink.trans henters.leaves
  rcases hw with rfl | rfl
  · exact hv
  · have htimer : LeavesVerdict p t (v.modify p fun pp => { pp with pdelayIntervalTimer := 0 }) :=
      LeavesVerdict.modify hv fun _ => .refl
    exact htimer

end DelayMachines

/-! ### State -/

variable {n : ℕ}

/-- A frame that was sent, or the two frames of `transmit_sync`. -/
inductive Transmission (n : ℕ)
  | announce (p : Fin n) (frame : Mem)
  | sync (p : Fin n) (frames : Mem × Mem)

/-- The variables of the module: `GPTP`, as far as it is modelled, and `current_sm`. -/
structure GptpModule (n : ℕ) where
  system : SyncSystem n
  usPortNumber : Fin n → UInt16
  announceSequenceId : Fin n → UInt16
  announceCounter : Fin n → UInt32
  syncCounter : Fin n → UInt32
  initialized : Bool
  adminEnabled : Bool
  timerTicks : UInt32
  /-- whether `current_sm` points to the instance -/
  currentSm : Bool
  /-- what was sent so far; the program does not keep it -/
  sent : List (Transmission n)

/-- Replace the variables of the announce machines. -/
def GptpModule.withGptp (s : GptpModule n) (t : Gptpm n) : GptpModule n :=
  { s with system := { s.system with gptp := t } }

/-- The variables that `transmit_announce` works on. -/
def GptpModule.announceTx (s : GptpModule n) : AnnounceTx n where
  grandmasterIdentity := s.system.grandmasterIdentity
  usPortNumber := s.usPortNumber
  announceSequenceId := s.announceSequenceId
  ptpTxBuf := s.system.ptpTxBuf

/-- The variables before they are first written. -/
def GptpModule.staticMemory (systemConfig : SystemConfig) (portConfig : Fin n → PortConfig)
    (ptpTxBuf : Mem) : GptpModule n where
  system :=
    { gptp := Gptp.staticMemory systemConfig portConfig
      sync := fun _ =>
        { rxPhyMacDelay := ⟨0, 0, 0⟩
          neighborRateRatio := 0
          neighborPropDelay := 0
          neighborRateRatioValid := false
          syncRxTimestampTemp := ⟨0, 0, 0⟩
          syncRxTimestamp := ⟨0, 0, 0⟩
          syncTxTimestamp := ⟨0, 0, 0⟩
          syncTimestampsValid := false
          cumulativeScaledRateOffset := 0
          syncSequenceId := 0
          syncSequenceIdValid := false
          waitingForFup := false }
      grandmasterIdentity := Vector.replicate 8 0
      upstreamTxTime := ⟨0, 0, 0⟩
      rxPreciseOriginTimeStamp := ⟨0, 0, 0⟩
      rxCorrectionField := ⟨0, 0, 0⟩
      rateRatio := 0
      rxSourcePortIdentity := ⟨Vector.replicate 8 0, ⟨0, 0⟩⟩
      ptpTxBuf := ptpTxBuf }
  usPortNumber _ := 0
  announceSequenceId _ := 0
  announceCounter _ := 0
  syncCounter _ := 0
  initialized := false
  adminEnabled := false
  timerTicks := 0
  currentSm := false
  sent := []

/-- `gptp_sw_init`, with `DEFAULT_SOURCE_MAC` and the delay of the platform as parameters. -/
def GptpModule.swInit (mac : Vector UInt8 6) (rxPhyMacDelay : PtpTime) (s : GptpModule n) :
    GptpModule n :=
  { s with
    system :=
      { s.system with
        gptp := gptpSwInit mac s.system.gptp
        sync := fun i =>
          { s.system.sync i with
            rxPhyMacDelay := rxPhyMacDelay
            syncSequenceId := 0
            syncSequenceIdValid := false
            syncTimestampsValid := false
            neighborPropDelay := 0 }
        grandmasterIdentity := clockIdentityOf mac }
    usPortNumber := fun i => UInt16.ofNat (i + 1)
    announceSequenceId := fun _ => 0
    announceCounter := fun _ => 0
    syncCounter := fun _ => 0
    initialized := true
    adminEnabled := true
    currentSm := false }

/-! ### The tick -/

/-- What a tick meets. -/
structure TickEnv (n : ℕ) where
  /-- the clock of each frame that it sends -/
  announceClock : Fin n → Clock
  syncClock : Fin n → Clock
  verdict : Fin n → DelayVerdict

/-- `transmit_announce` on port `i`. -/
def GptpModule.transmitAnnounce (host : Host) (clock : Clock) (s : GptpModule n) (i : Fin n) :
    Option (GptpModule n) :=
  (Gptp.transmitAnnounce host clock s.system.gptp s.announceTx i).map fun tx =>
    { s with
      system := { s.system with ptpTxBuf := tx.ptpTxBuf }
      announceSequenceId := tx.announceSequenceId
      sent := s.sent ++ [.announce i tx.ptpTxBuf] }

/-- `transmit_sync` on port `i`. -/
def GptpModule.transmitSync (host : Host) (clock : Clock) (s : GptpModule n) (i : Fin n) :
    GptpModule n :=
  let transmitted := Gptp.transmitSync host clock s.system i
  { s with
    system := transmitted.1
    sent := s.sent ++ [.sync i transmitted.2] }

/-- A master port sends Announce messages at their rate. -/
def announceTurn (host : Host) (clock : Clock) (timerTicks : UInt32) (s : GptpModule n)
    (i : Fin n) : Option (GptpModule n) :=
  let counter := s.announceCounter i + timerTicks
  if UInt32.ofInt (s.system.gptp.ports i).announceIntervalTicks ≤ counter then
    { s.withGptp (s.system.gptp.setPort i { s.system.gptp.ports i with newInfo := false }) with
      announceCounter := Function.update s.announceCounter i 0 }.transmitAnnounce host clock i
  else some { s with announceCounter := Function.update s.announceCounter i counter }

/-- A master port sends Sync messages at their rate. -/
def syncTurn (host : Host) (clock : Clock) (timerTicks : UInt32) (s : GptpModule n) (i : Fin n) :
    GptpModule n :=
  let counter := s.syncCounter i + timerTicks
  if UInt32.ofInt (s.system.gptp.ports i).syncIntervalTicks ≤ counter then
    { s with syncCounter := Function.update s.syncCounter i 0 }.transmitSync host clock i
  else { s with syncCounter := Function.update s.syncCounter i counter }

/-- One turn of the loop that sends.  A slave port has nothing to send here with the peer delay
mechanism. -/
def transmitTurn (host : Host) (env : TickEnv n) (timerTicks : UInt32) (s : GptpModule n)
    (i : Fin n) : Option (GptpModule n) :=
  if (s.system.gptp.ports i).selectedRole = .master then
    (announceTurn host (env.announceClock i) timerTicks s i).map fun s =>
      syncTurn host (env.syncClock i) timerTicks s i
  else some s

/-- The delay machines leave a verdict on port `i`. -/
def GptpModule.takeVerdict (s : GptpModule n) (i : Fin n) (verdict : DelayVerdict) :
    GptpModule n :=
  { s with
    system :=
      { s.system.modify i (setNeighbor verdict.neighborRateRatio verdict.neighborPropDelay
          verdict.neighborRateRatioValid) with
        gptp := s.system.gptp.setPort i ((s.system.gptp.ports i).withVerdict verdict)
        ptpTxBuf := verdict.ptpTxBuf } }

/-- One turn of the loop that runs the machines. -/
def machineTurn (env : TickEnv n) (s : GptpModule n) (i : Fin n) : Option (GptpModule n) :=
  let s := s.takeVerdict i (env.verdict i)
  (portAnnounceInformation s.system.gptp i).map s.withGptp

/-- The roles are selected if a port asks for it. -/
def selectRoles (t : Gptpm n) : Gptpm n := if Reselecting t then portRoleSelection t else t

/-- `vtss_gptp_more_work`.  What a change of the grandmaster does to the clock is no part of
this. -/
def moreWork (host : Host) (env : TickEnv n) (s : GptpModule n) : Option (GptpModule n) :=
  if !s.currentSm then some s
  else if s.adminEnabled then
    let timerTicks := s.timerTicks
    let s := { s.withGptp (selectRoles s.system.gptp) with timerTicks := 0 }
    ((List.finRange n).foldlM (transmitTurn host env timerTicks) s).bind fun s =>
      ((List.finRange n).foldlM (machineTurn env) s).map fun s =>
        { s.withGptp { s.system.gptp with newMaster := false } with currentSm := false }
  else some { s with currentSm := false }

/-- `finish_gptp_work`. -/
def finishGptpWork (host : Host) (env : TickEnv n) (s : GptpModule n) : Option (GptpModule n) :=
  if s.currentSm then moreWork host env s else some s

/-- `GPTP_machine_update`. -/
def gptpMachineUpdate (host : Host) (env : TickEnv n) (s : GptpModule n) : Option (GptpModule n) :=
  (finishGptpWork host env s).bind fun s => moreWork host env { s with currentSm := true }

/-- `vtss_gptp_tick`. -/
def vtssGptpTick (host : Host) (env : TickEnv n) (s : GptpModule n) : Option (GptpModule n) :=
  (finishGptpWork host env s).bind fun s =>
    gptpMachineUpdate host env { s with timerTicks := s.timerTicks + 1 }

/-! ### Calls of the module -/

/-- A call of the module from outside, or a received frame.  A frame of the peer delay mechanism
and a Signaling message leave a verdict. -/
inductive ModuleInput (n : ℕ)
  | vtssGptpInit
  | vtssGptpDeinit
  | vtssGptpTick (env : TickEnv n)
  | vtssGptpSetConfig (config : SystemConfig)
  | vtssGptpSetPortconfig (env : TickEnv n) (p : Fin n) (config : PortConfig)
  | processRxAnnounce (p : Fin n) (rxBuffer : Mem)
  | processRxSync (p : Fin n) (clock : Clock) (locals : SyncLocals) (rxBuffer : Mem)
  | processRxFup (p : Fin n) (clock : Fin n → Clock) (locals : SyncLocals) (rxBuffer : Mem)
  | delayReception (p : Fin n) (verdict : DelayVerdict)

/-- What the platform provides at initialisation. -/
structure Platform where
  host : Host
  /-- `DEFAULT_SOURCE_MAC` -/
  mac : Vector UInt8 6
  rxPhyMacDelay : PtpTime

/-- `GPTP_INIT`. -/
def gptpInit (platform : Platform) (s : GptpModule n) : GptpModule n :=
  if s.initialized then s else s.swInit platform.mac platform.rxPhyMacDelay

/-- Write the configuration of a port. -/
def GptpModule.setPortconfig (s : GptpModule n) (p : Fin n) (config : PortConfig) : GptpModule n :=
  s.withGptp (s.system.gptp.setPort p { s.system.gptp.ports p with portConfig := config })

def moduleStep (platform : Platform) (s : GptpModule n) : ModuleInput n → Option (GptpModule n)
  | .vtssGptpInit => some (gptpInit platform s)
  | .vtssGptpDeinit => some (s.swInit platform.mac platform.rxPhyMacDelay)
  | .vtssGptpTick env => vtssGptpTick platform.host env s
  | .vtssGptpSetConfig config =>
    let s := gptpInit platform s
    some (s.withGptp { s.system.gptp with systemConfig := config })
  | .vtssGptpSetPortconfig env p config =>
    (finishGptpWork platform.host env (gptpInit platform s)).map fun s => s.setPortconfig p config
  | .processRxAnnounce p rxBuffer =>
    (processRxAnnounce platform.host.bigEndian s.system.gptp p rxBuffer).map s.withGptp
  | .processRxSync p clock locals rxBuffer =>
    some { s with system := processRxSync platform.host clock locals s.system p rxBuffer }
  | .processRxFup p clock locals rxBuffer =>
    (processRxFup platform.host clock locals s.currentSm s.system p rxBuffer).map fun r =>
      { s with
        system := r.1
        sent := s.sent ++ r.2.map fun frames => .sync frames.1 frames.2 }
  | .delayReception p verdict => some (s.takeVerdict p verdict)

/-! ### What a tick does -/

variable {host : Host} {env : TickEnv n} {s s' u : GptpModule n} {i p : Fin n}
  {timerTicks : UInt32} {platform : Platform} {input : ModuleInput n} {r : Port}

/-- Between the loops only `newInfo` is written. -/
def SameButNewInfo (t t' : Gptpm n) : Prop :=
  ∃ newInfo : Fin n → Bool, t' = { t with ports := fun i => { t.ports i with newInfo := newInfo i } }

theorem SameButNewInfo.refl {t : Gptpm n} : SameButNewInfo t t :=
  ⟨fun i => (t.ports i).newInfo, rfl⟩

theorem SameButNewInfo.trans {t t' t'' : Gptpm n} (h : SameButNewInfo t t')
    (h' : SameButNewInfo t' t'') : SameButNewInfo t t'' := by
  obtain ⟨newInfo, rfl⟩ := h
  obtain ⟨newInfo', rfl⟩ := h'
  exact ⟨newInfo', rfl⟩

theorem setPort_newInfo {t : Gptpm n} {newInfo : Bool} :
    SameButNewInfo t (t.setPort i { t.ports i with newInfo := newInfo }) := by
  refine ⟨fun j => if j = i then newInfo else (t.ports j).newInfo, ?_⟩
  have hports : Function.update t.ports i { t.ports i with newInfo := newInfo } = fun j =>
      { t.ports j with newInfo := if j = i then newInfo else (t.ports j).newInfo } := by
    funext j
    by_cases hj : j = i
    · subst hj
      simp only [Function.update_self, if_true]
    · simp only [Function.update_of_ne hj, if_neg hj]
  rw [Gptpm.setPort, hports]

/-- Sending leaves the rest of the module alone, as far as the machines see it. -/
structure SendsOnly (s s' : GptpModule n) : Prop where
  gptp : SameButNewInfo s.system.gptp s'.system.gptp
  adminEnabled : s'.adminEnabled = s.adminEnabled

theorem SendsOnly.trans (h : SendsOnly s s') (h' : SendsOnly s' u) : SendsOnly s u :=
  ⟨h.gptp.trans h'.gptp, h'.adminEnabled.trans h.adminEnabled⟩

theorem transmitAnnounce_sendsOnly {clock : Clock} (h : s.transmitAnnounce host clock i = some s') :
    SendsOnly s s' := by
  obtain ⟨tx, -, rfl⟩ := Option.map_eq_some_iff.mp h
  exact ⟨.refl, rfl⟩

theorem syncTurn_sendsOnly {clock : Clock} : SendsOnly s (syncTurn host clock timerTicks s i) := by
  simp only [syncTurn]
  split
  · refine ⟨?_, rfl⟩
    show SameButNewInfo _ (transmitSync host clock s.system i).1.gptp
    rw [transmitSync_gptp]
    exact .refl
  · exact ⟨.refl, rfl⟩

theorem announceTurn_sendsOnly {clock : Clock} (h : announceTurn host clock timerTicks s i = some s') :
    SendsOnly s s' := by
  rw [announceTurn] at h
  dsimp only at h
  split at h
  · refine SendsOnly.trans ?_ (transmitAnnounce_sendsOnly h)
    exact ⟨setPort_newInfo, rfl⟩
  · exact Option.some_inj.mp h ▸ ⟨.refl, rfl⟩

theorem transmitTurn_sendsOnly (h : transmitTurn host env timerTicks s i = some s') :
    SendsOnly s s' := by
  rw [transmitTurn] at h
  split at h
  · obtain ⟨u, hu, rfl⟩ := Option.map_eq_some_iff.mp h
    exact (announceTurn_sendsOnly hu).trans syncTurn_sendsOnly
  · exact Option.some_inj.mp h ▸ ⟨.refl, rfl⟩

theorem transmitTurns_sendsOnly {l : List (Fin n)}
    (h : l.foldlM (transmitTurn host env timerTicks) s = some s') : SendsOnly s s' := by
  induction l generalizing s with
  | nil => exact Option.some_inj.mp h ▸ ⟨.refl, rfl⟩
  | cons i l ih =>
    obtain ⟨u, hu, hrest⟩ := Option.bind_eq_some_iff.mp h
    exact (transmitTurn_sendsOnly hu).trans (ih hrest)

/-- The machines of a list of ports have run, each on its own port. -/
structure MachinesRan (env : TickEnv n) (l : List (Fin n)) (s s' : GptpModule n) : Prop where
  adminEnabled : s'.adminEnabled = s.adminEnabled
  gptp : s'.system.gptp = { s.system.gptp with ports := s'.system.gptp.ports }
  ran : ∀ i ∈ l, Rests s.system.gptp.gmPresent s.system.gptp.masterStepsRemoved i
    ((s.system.gptp.ports i).withVerdict (env.verdict i)) (s'.system.gptp.ports i)
  others : ∀ i, i ∉ l → s'.system.gptp.ports i = s.system.gptp.ports i

theorem machineTurn_ran (h : machineTurn env s i = some s') :
    s'.adminEnabled = s.adminEnabled ∧
      ∃ r, Rests s.system.gptp.gmPresent s.system.gptp.masterStepsRemoved i
        ((s.system.gptp.ports i).withVerdict (env.verdict i)) r ∧
        s'.system.gptp = s.system.gptp.setPort i r := by
  obtain ⟨t, ht, rfl⟩ := Option.map_eq_some_iff.mp h
  obtain ⟨r, hrests, rfl⟩ := portAnnounceInformation_rests ht
  refine ⟨rfl, r, ?_, ?_⟩
  · rw [← @Gptpm.setPort_ports_self n s.system.gptp i
      ((s.system.gptp.ports i).withVerdict (env.verdict i))]
    exact hrests
  · show (s.system.gptp.setPort i _).setPort i r = _
    simp only [Gptpm.setPort, Function.update_idem]

theorem machineTurns_ran {l : List (Fin n)} (hl : l.Nodup)
    (h : l.foldlM (machineTurn env) s = some s') : MachinesRan env l s s' := by
  induction l generalizing s with
  | nil =>
    obtain rfl := Option.some_inj.mp h
    exact ⟨rfl, rfl, fun i hi => absurd hi List.not_mem_nil, fun _ _ => rfl⟩
  | cons j l ih =>
    obtain ⟨hj, hl⟩ := List.nodup_cons.mp hl
    obtain ⟨u, hu, hrest⟩ := Option.bind_eq_some_iff.mp h
    obtain ⟨hadmin, r, hrests, hgptp⟩ := machineTurn_ran hu
    have hran := ih hl hrest
    refine ⟨hran.adminEnabled.trans hadmin, ?_, fun i hi => ?_, fun i hi => ?_⟩
    · rw [hran.gptp, hgptp]
      rfl
    · rcases List.mem_cons.mp hi with rfl | hi
      · rw [hran.others _ hj, hgptp, Gptpm.setPort_ports_self]
        exact hrests
      · have hne : i ≠ j := fun heq => hj (heq ▸ hi)
        have hrests := hran.ran i hi
        rw [hgptp, Gptpm.setPort_ports_of_ne hne] at hrests
        exact hrests
    · obtain ⟨hne, hi⟩ := not_or.mp (mt List.mem_cons.mpr hi)
      rw [hran.others i hi, hgptp, Gptpm.setPort_ports_of_ne hne]

/-- A port as its machine finds it in a tick. -/
def found (env : TickEnv n) (t : Gptpm n) (p : Fin n) : Port :=
  ((selectRoles t).ports p).withVerdict (env.verdict p)

/-- `newInfo` is not read by the machine. -/
def Port.withNewInfo (pp : Port) (newInfo : Bool) : Port := { pp with newInfo := newInfo }

/-- What a tick does to an instance. -/
structure Ticked (env : TickEnv n) (t t' : Gptpm n) : Prop where
  rest : ∃ newMaster, t' = { selectRoles t with newMaster := newMaster, ports := t'.ports }
  ports : ∀ p : Fin n, ∃ newInfo, Rests (selectRoles t).gmPresent (selectRoles t).masterStepsRemoved p
    ((found env t p).withNewInfo newInfo) (t'.ports p)

theorem moreWork_currentSm (h : moreWork host env s = some s') : s'.currentSm = false := by
  rw [moreWork] at h
  cases hsm : s.currentSm
  · rw [hsm, Bool.not_false, if_pos rfl] at h
    rw [← Option.some_inj.mp h, hsm]
  · rw [hsm, Bool.not_true, if_neg Bool.false_ne_true] at h
    split at h
    · obtain ⟨u, -, hu⟩ := Option.bind_eq_some_iff.mp h
      obtain ⟨v, -, rfl⟩ := Option.map_eq_some_iff.mp hu
      rfl
    · exact Option.some_inj.mp h ▸ rfl

theorem moreWork_ticked (hsm : s.currentSm = true) (hadmin : s.adminEnabled = true)
    (h : moreWork host env s = some s') :
    s'.adminEnabled = true ∧ Ticked env s.system.gptp s'.system.gptp := by
  rw [moreWork, hsm, Bool.not_true, if_neg Bool.false_ne_true, if_pos hadmin] at h
  obtain ⟨u, hu, h⟩ := Option.bind_eq_some_iff.mp h
  obtain ⟨v, hv, rfl⟩ := Option.map_eq_some_iff.mp h
  obtain ⟨⟨newInfo, hnewInfo⟩, hadmin₁⟩ := transmitTurns_sendsOnly hu
  have hran := machineTurns_ran (List.nodup_finRange n) hv
  refine ⟨hran.adminEnabled.trans (hadmin₁.trans hadmin), ⟨false, ?_⟩,
    fun p : Fin n => ⟨newInfo p, ?_⟩⟩
  · show { v.system.gptp with newMaster := false } = _
    rw [hran.gptp, hnewInfo]
    rfl
  · have hrests := hran.ran p (List.mem_finRange p)
    rw [hnewInfo] at hrests
    exact hrests

/-- Where no work is left unfinished, a tick is one run of the worker. -/
theorem vtssGptpTick_eq (hsm : s.currentSm = false) :
    vtssGptpTick host env s =
      moreWork host env { s with timerTicks := s.timerTicks + 1, currentSm := true } := by
  rw [vtssGptpTick, finishGptpWork, hsm, if_neg Bool.false_ne_true, Option.bind_some,
    gptpMachineUpdate, finishGptpWork]
  dsimp only
  rw [if_neg (by rw [hsm]; exact Bool.false_ne_true), Option.bind_some]

/-- **What a tick does to the ports**: the roles are selected if a port asks for it, the delay
machines leave their verdict, and PortAnnounceInformation runs. -/
theorem vtssGptpTick_ticked (hsm : s.currentSm = false) (hadmin : s.adminEnabled = true)
    (h : vtssGptpTick host env s = some s') :
    s'.adminEnabled = true ∧ Ticked env s.system.gptp s'.system.gptp := by
  rw [vtssGptpTick_eq hsm] at h
  exact moreWork_ticked (s := { s with timerTicks := s.timerTicks + 1, currentSm := true })
    rfl hadmin h

/-- **No work is left unfinished between two calls.** -/
theorem moduleStep_currentSm (hsm : s.currentSm = false)
    (h : moduleStep platform s input = some s') : s'.currentSm = false := by
  have hinit : (gptpInit platform s).currentSm = false := by
    rw [gptpInit]
    split
    · exact hsm
    · rfl
  cases input with
  | vtssGptpInit => exact Option.some_inj.mp h ▸ hinit
  | vtssGptpTick env =>
    have htick : vtssGptpTick platform.host env s = some s' := h
    rw [vtssGptpTick_eq hsm] at htick
    exact moreWork_currentSm htick
  | vtssGptpSetConfig config => exact Option.some_inj.mp h ▸ hinit
  | vtssGptpSetPortconfig env p config =>
    obtain ⟨u, hu, rfl⟩ := Option.map_eq_some_iff.mp h
    rw [finishGptpWork, hinit, if_neg Bool.false_ne_true] at hu
    exact Option.some_inj.mp hu ▸ hinit
  | processRxAnnounce p m | processRxFup p clock locals m =>
    obtain ⟨u, -, rfl⟩ := Option.map_eq_some_iff.mp h
    exact hsm
  | vtssGptpDeinit => exact Option.some_inj.mp h ▸ rfl
  | processRxSync p clock locals m | delayReception p verdict => exact Option.some_inj.mp h ▸ hsm

end Gptp
