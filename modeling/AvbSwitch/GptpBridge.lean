/-
A gPTP instance as a whole: the announce machines, Sync and Follow_Up messages, and the peer delay
mechanism on the same ports.

`GptpModule` takes what the delay machines leave of a port from its environment.  Here they are run
on the ports themselves: `pdelaySystem` is how they find the instance, and `takePdelay` what they
make of it.

* `bridgeStep_moduleRun` — a call of the instance is one call of the module, or a few;
* `bridge_refines` — so that every run of the instance is a run of the module, with the same calls
  and the verdicts that the delay machines come to.
-/
import AvbSwitch.GptpTick
import AvbSwitch.PdelayResponder

open Octets

namespace Gptp

variable {n : ℕ}

/-! ### State -/

/-- The place of a port in the peer delay mechanism. -/
def portOctet (i : Fin n) : UInt8 := UInt8.ofNat i

/-- What `vtss_gptp_port_config_t` says about the peer delay mechanism. -/
structure DelayConfig where
  initialLogSyncInterval : UInt32
  nbrPropDelayThresh : UInt32

/-- `vtss_gptp_vars`.  The variables of a port that both mechanisms use are kept in `vars`. -/
structure Bridge (n : ℕ) where
  vars : GptpModule n
  pdelay : PdelaySystem
  delayConfig : Fin n → DelayConfig
  lastPeerRequestPortId : UInt8 → PortIdentity

/-- A port before its variables are first written. -/
def unwrittenPort : Port :=
  (staticMemory ⟨0, 0⟩ fun _ => ⟨0, 0⟩ : Gptpm 1).ports ⟨0, Nat.one_pos⟩

/-- The variables before they are first written. -/
def Bridge.staticMemory (systemConfig : SystemConfig) (portConfig : Fin n → PortConfig)
    (delayConfig : Fin n → DelayConfig) (ptpTxBuf : Mem) : Bridge n where
  vars := GptpModule.staticMemory systemConfig portConfig ptpTxBuf
  pdelay :=
    { ports := fun _ => PdelayPort.staticMemory unwrittenPort
      grandmasterIdentity := Vector.replicate 8 0
      delayMechanism := 0 }
  delayConfig := delayConfig
  lastPeerRequestPortId _ := ⟨Vector.replicate 8 0, ⟨0, 0⟩⟩

/-! ### The variables that both mechanisms use -/

def PdelayPort.sharing (pp : PdelayPort) (port : Port) (sync : SyncPort) : PdelayPort :=
  { pp with
    toPort := port
    neighborRateRatio := sync.neighborRateRatio
    neighborPropDelay := sync.neighborPropDelay
    neighborRateRatioValid := sync.neighborRateRatioValid }

/-- The instance as the peer delay mechanism finds it. -/
def Bridge.pdelaySystem (b : Bridge n) : PdelaySystem where
  ports q :=
    if h : q.toNat < n then
      (b.pdelay.ports q).sharing (b.vars.system.gptp.ports ⟨q.toNat, h⟩)
        (b.vars.system.sync ⟨q.toNat, h⟩)
    else b.pdelay.ports q
  grandmasterIdentity := b.vars.system.grandmasterIdentity
  delayMechanism := b.pdelay.delayMechanism

/-- What the peer delay mechanism makes of the instance, and of `ptp_tx_buf`. -/
def Bridge.takePdelay (b : Bridge n) (t : PdelaySystem) (ptpTxBuf : Mem) : Bridge n :=
  { b with
    vars :=
      { b.vars with
        system :=
          { b.vars.system with
            gptp :=
              { b.vars.system.gptp with ports := fun i => (t.ports (portOctet i)).toPort }
            sync := fun i =>
              setNeighbor (t.ports (portOctet i)).neighborRateRatio
                (t.ports (portOctet i)).neighborPropDelay
                (t.ports (portOctet i)).neighborRateRatioValid (b.vars.system.sync i)
            ptpTxBuf := ptpTxBuf } }
    pdelay := t }

/-- The instance as a request of a neighbour finds it. -/
def Bridge.responder (b : Bridge n) : PdelayResponder :=
  { b.pdelaySystem with
    rootClockIdentity := b.vars.system.gptp.systemPriority.rootSystemIdentity.clockIdentity
    numPorts := UInt8.ofNat n
    lastPeerRequestPortId := b.lastPeerRequestPortId
    ptpTxBuf := b.vars.system.ptpTxBuf }

/-! ### Initialisation -/

/-- What the platform provides at initialisation. -/
structure BridgePlatform (n : ℕ) extends Platform where
  /-- what `vtss_os_get_portmac` stores -/
  portMac : Fin n → Vector UInt8 6

/-- `gptp_sw_init`. -/
def Bridge.swInit (platform : BridgePlatform n) (b : Bridge n) : Bridge n :=
  { b with
    vars := b.vars.swInit platform.mac platform.rxPhyMacDelay
    pdelay :=
      { ports := fun q =>
          if h : q.toNat < n then
            (b.pdelay.ports q).swInit platform.mac platform.rxPhyMacDelay
              (b.delayConfig ⟨q.toNat, h⟩).initialLogSyncInterval
              (b.delayConfig ⟨q.toNat, h⟩).nbrPropDelayThresh q
          else b.pdelay.ports q
        grandmasterIdentity := clockIdentityOf platform.mac
        delayMechanism := delayMechanismP2P } }

/-- `GPTP_INIT`. -/
def Bridge.init (platform : BridgePlatform n) (b : Bridge n) : Bridge n :=
  if b.vars.initialized then b else b.swInit platform

/-- `gptp_hw_init`, as far as the addresses of the ports go. -/
def Bridge.hwInit (platform : BridgePlatform n) (b : Bridge n) : Bridge n :=
  { b with
    pdelay :=
      { b.pdelay with
        ports := fun q =>
          if h : q.toNat < n then
            { b.pdelay.ports q with macaddr := platform.portMac ⟨q.toNat, h⟩ }
          else b.pdelay.ports q } }

/-! ### The tick -/

/-- What a tick meets. -/
structure BridgeEnv (n : ℕ) where
  /-- the clock of each frame that it sends -/
  announceClock : Fin n → Clock
  syncClock : Fin n → Clock
  pdelayClock : Fin n → Clock
  /-- the turns of the loop of MDPdelayReq, at most -/
  fuel : ℕ
  /-- what a request leaves in `ptp_tx_buf` -/
  ptpTxBuf : Fin n → Mem

/-- The same for the module, with the verdicts of the delay machines. -/
def BridgeEnv.tickEnv (env : BridgeEnv n) (verdict : Fin n → DelayVerdict) : TickEnv n :=
  ⟨env.announceClock, env.syncClock, verdict⟩

/-- A verdict that nothing looks at. -/
def noVerdict : DelayVerdict := ⟨false, false, 0, 0, 0, false, fun _ => 0⟩

/-- One turn of the loop that runs the machines. -/
def bridgeMachineTurn (host : Host) (env : BridgeEnv n) (b : Bridge n) (i : Fin n) :
    Option (Bridge n) :=
  (delayMachines env.fuel host (env.pdelayClock i) b.pdelaySystem (portOctet i)).bind fun t =>
    let b := b.takePdelay t (env.ptpTxBuf i)
    (portAnnounceInformation b.vars.system.gptp i).map fun g =>
      { b with vars := b.vars.withGptp g }

/-- `vtss_gptp_more_work`. -/
def bridgeMoreWork (host : Host) (env : BridgeEnv n) (b : Bridge n) : Option (Bridge n) :=
  if !b.vars.currentSm then some b
  else if b.vars.adminEnabled then
    let timerTicks := b.vars.timerTicks
    let vars := { b.vars.withGptp (selectRoles b.vars.system.gptp) with timerTicks := 0 }
    ((List.finRange n).foldlM (transmitTurn host (env.tickEnv fun _ => noVerdict) timerTicks)
      vars).bind fun vars =>
      ((List.finRange n).foldlM (bridgeMachineTurn host env) { b with vars := vars }).map fun b =>
        { b with
          vars :=
            { b.vars.withGptp { b.vars.system.gptp with newMaster := false } with
              currentSm := false } }
  else some { b with vars := { b.vars with currentSm := false } }

/-- `finish_gptp_work`. -/
def bridgeFinishWork (host : Host) (env : BridgeEnv n) (b : Bridge n) : Option (Bridge n) :=
  if b.vars.currentSm then bridgeMoreWork host env b else some b

/-- `GPTP_machine_update`. -/
def bridgeMachineUpdate (host : Host) (env : BridgeEnv n) (b : Bridge n) : Option (Bridge n) :=
  (bridgeFinishWork host env b).bind fun b =>
    bridgeMoreWork host env { b with vars := { b.vars with currentSm := true } }

/-- `vtss_gptp_tick`. -/
def bridgeTick (host : Host) (env : BridgeEnv n) (b : Bridge n) : Option (Bridge n) :=
  (bridgeFinishWork host env b).bind fun b =>
    bridgeMachineUpdate host env
      { b with vars := { b.vars with timerTicks := b.vars.timerTicks + 1 } }

/-! ### Calls -/

/-- A call from outside, or a received frame. -/
inductive BridgeInput (n : ℕ)
  | vtssGptpInit
  | vtssGptpDeinit
  | vtssGptpTick (env : BridgeEnv n)
  | vtssGptpSetConfig (config : SystemConfig)
  | vtssGptpSetPortconfig (env : BridgeEnv n) (p : Fin n) (config : PortConfig)
      (delayConfig : DelayConfig)
  | processRxAnnounce (p : Fin n) (rxBuffer : Mem)
  | processRxSync (p : Fin n) (clock : Clock) (locals : SyncLocals) (rxBuffer : Mem)
  | processRxFup (p : Fin n) (clock : Fin n → Clock) (locals : SyncLocals) (rxBuffer : Mem)
  | processRxPdelayReq (p : Fin n) (clock : Clock) (rxBuffer : Mem)
  | processRxPdelayResp (p : Fin n) (fuel : ℕ) (clock : Clock) (rxBuffer : RxFrame)
      (ptpTxBuf : Mem)
  | processRxPdelayRespFup (p : Fin n) (fuel : ℕ) (clock : Clock) (rxBuffer : RxFrame)
      (ptpTxBuf : Mem)
  | processRxSignaling (p : Fin n) (rxBuffer : Mem)

def bridgeStep (platform : BridgePlatform n) (b : Bridge n) : BridgeInput n → Option (Bridge n)
  | .vtssGptpInit => some ((b.init platform).hwInit platform)
  | .vtssGptpDeinit => some (b.swInit platform)
  | .vtssGptpTick env => bridgeTick platform.host env b
  | .vtssGptpSetConfig config =>
    let b := b.init platform
    some { b with vars := b.vars.withGptp { b.vars.system.gptp with systemConfig := config } }
  | .vtssGptpSetPortconfig env p config delayConfig =>
    (bridgeFinishWork platform.host env (b.init platform)).map fun b =>
      { b with
        vars := b.vars.setPortconfig p config
        delayConfig := Function.update b.delayConfig p delayConfig }
  | .processRxAnnounce p rxBuffer =>
    (processRxAnnounce platform.host.bigEndian b.vars.system.gptp p rxBuffer).map fun g =>
      { b with vars := b.vars.withGptp g }
  | .processRxSync p clock locals rxBuffer =>
    some { b with
      vars :=
        { b.vars with
          system := processRxSync platform.host clock locals b.vars.system p rxBuffer } }
  | .processRxFup p clock locals rxBuffer =>
    (processRxFup platform.host clock locals b.vars.currentSm b.vars.system p rxBuffer).map fun r =>
      { b with
        vars :=
          { b.vars with
            system := r.1
            sent := b.vars.sent ++ r.2.map fun frames => .sync frames.1 frames.2 } }
  | .processRxPdelayReq p clock rxBuffer =>
    let r := (processRxPdelayReq platform.host clock b.responder (portOctet p) rxBuffer).1
    some { b.takePdelay r.toPdelaySystem r.ptpTxBuf with
      lastPeerRequestPortId := r.lastPeerRequestPortId }
  | .processRxPdelayResp p fuel clock rxBuffer ptpTxBuf =>
    (processRxPdelayResp fuel platform.host clock b.pdelaySystem (portOctet p) rxBuffer).map
      fun r => b.takePdelay r.1 ptpTxBuf
  | .processRxPdelayRespFup p fuel clock rxBuffer ptpTxBuf =>
    (processRxPdelayRespFup fuel platform.host clock b.pdelaySystem (portOctet p) rxBuffer).map
      fun r => b.takePdelay r.1 ptpTxBuf
  | .processRxSignaling p rxBuffer =>
    (processRxSignalingOn b.pdelaySystem (portOctet p) rxBuffer).map fun t =>
      b.takePdelay t b.vars.system.ptpTxBuf

/-! ### What the peer delay mechanism makes of the module -/

variable {host : Host} {clock : Clock} {env : BridgeEnv n} {platform : BridgePlatform n}
  {b b' : Bridge n} {t t' w : PdelaySystem} {i j p : Fin n} {q r : UInt8} {fuel : ℕ} {buf : Mem}
  {entries : List PdelayPort} {s : MDPdelayReqState} {input : BridgeInput n}

theorem portOctet_toNat (hn : n ≤ 8) : (portOctet i).toNat = i := by
  have hi := i.isLt
  rw [portOctet, UInt8.toNat_ofNat']
  omega

theorem portOctet_ne_eight (hn : n ≤ 8) : portOctet i ≠ 8 := by
  intro h
  have hi := @portOctet_toNat n i hn
  rw [h] at hi
  have h8 : (8 : UInt8).toNat = 8 := rfl
  omega

theorem portOctet_ne (hn : n ≤ 8) (h : j ≠ i) : portOctet j ≠ portOctet i := by
  intro heq
  refine h (Fin.ext ?_)
  rw [← @portOctet_toNat n j hn, ← @portOctet_toNat n i hn, heq]

theorem pdelaySystem_port (hn : n ≤ 8) : b.pdelaySystem.ports (portOctet i) =
    (b.pdelay.ports (portOctet i)).sharing (b.vars.system.gptp.ports i) (b.vars.system.sync i) := by
  have hi : (portOctet i).toNat < n := by
    rw [portOctet_toNat hn]
    exact i.isLt
  have heq : (⟨(portOctet i).toNat, hi⟩ : Fin n) = i := Fin.ext (portOctet_toNat hn)
  simp only [Bridge.pdelaySystem, dif_pos hi, heq]

/-- **What is done to one port is a verdict.** -/
theorem takePdelay_vars (hn : n ≤ 8)
    (hself : SameButVerdict (b.vars.system.gptp.ports i) (t.ports (portOctet i)).toPort)
    (hothers : ∀ j, j ≠ i → t.ports (portOctet j) = b.pdelaySystem.ports (portOctet j)) :
    ∃ verdict, (b.takePdelay t buf).vars = b.vars.takeVerdict i verdict := by
  obtain ⟨verdict, hverdict⟩ := hself
  refine ⟨{ verdict with
    neighborRateRatio := (t.ports (portOctet i)).neighborRateRatio
    neighborPropDelay := (t.ports (portOctet i)).neighborPropDelay
    neighborRateRatioValid := (t.ports (portOctet i)).neighborRateRatioValid
    ptpTxBuf := buf }, ?_⟩
  have hports : (fun j => (t.ports (portOctet j)).toPort) =
      Function.update b.vars.system.gptp.ports i
        ((b.vars.system.gptp.ports i).withVerdict verdict) := by
    funext j
    by_cases hj : j = i
    · rw [hj, Function.update_self, hverdict]
    · rw [Function.update_of_ne hj, hothers j hj, pdelaySystem_port hn]
      rfl
  have hsync : (fun j => setNeighbor (t.ports (portOctet j)).neighborRateRatio
      (t.ports (portOctet j)).neighborPropDelay (t.ports (portOctet j)).neighborRateRatioValid
      (b.vars.system.sync j)) = Function.update b.vars.system.sync i
        (setNeighbor (t.ports (portOctet i)).neighborRateRatio
          (t.ports (portOctet i)).neighborPropDelay (t.ports (portOctet i)).neighborRateRatioValid
          (b.vars.system.sync i)) := by
    funext j
    by_cases hj : j = i
    · rw [hj, Function.update_self]
    · rw [Function.update_of_ne hj, hothers j hj, pdelaySystem_port hn]
      rfl
  rw [Bridge.takePdelay, hports, hsync]
  rfl

theorem EntersFrom.ports_of_ne (h : EntersFrom host clock q t w s) (hr : r ≠ q) (h8 : r ≠ 8) :
    (mdPdelayReqSetState host clock w q s).ports r = t.ports r := by
  have hone : ∀ {w : PdelaySystem} {s : MDPdelayReqState},
      (mdPdelayReqSetState host clock w q s).ports r = w.ports r :=
    mdPdelayReqSetState_ports_of_ne hr fun _ => h8
  induction h with
  | disabled | first => exact hone
  | next _ _ _ ih => exact hone.trans ih

/-- MDPdelayReq leaves a verdict on its port, and writes no other port but the one behind the
last. -/
theorem mdPdelayReqStateMachine_leaves
    (h : mdPdelayReqStateMachine fuel host clock t q = some (w, entries)) :
    LeavesVerdict q t w ∧ ∀ r, r ≠ q → r ≠ 8 → w.ports r = t.ports r := by
  obtain ⟨u, hu, hw⟩ := mdPdelayReqStateMachine_enters h
  have hentered : LeavesVerdict q t u ∧ ∀ r, r ≠ q → r ≠ 8 → u.ports r = t.ports r := by
    rcases hu with rfl | ⟨v, s, henters, rfl⟩
    · exact ⟨.refl, fun _ _ _ => rfl⟩
    · exact ⟨henters.leaves, fun r hr h8 => henters.ports_of_ne hr h8⟩
  rcases hw with rfl | rfl
  · exact hentered
  · refine ⟨hentered.1.modify fun _ => .refl, fun r hr h8 => ?_⟩
    rw [PdelaySystem.modify_of_ne hr]
    exact hentered.2 r hr h8

theorem delayMachines_ports_of_ne (h : delayMachines fuel host clock t q = some t') (hr : r ≠ q)
    (h8 : r ≠ 8) : t'.ports r = t.ports r := by
  obtain ⟨u, hu, h⟩ := Option.bind_eq_some_iff.mp h
  obtain ⟨pp, -, rfl⟩ := Option.map_eq_some_iff.mp hu
  obtain ⟨⟨w, es⟩, hw, rfl⟩ := Option.map_eq_some_iff.mp h
  rw [(mdPdelayReqStateMachine_leaves hw).2 r hr h8, PdelaySystem.modify_of_ne hr,
    PdelaySystem.modify_of_ne hr]

theorem processRxSignaling_leaves {m : Mem} {pp pp' : PdelayPort}
    (h : processRxSignaling m pp = some pp') : SameButVerdict pp.toPort pp'.toPort :=
  @linkDelaySyncIntervalSettingStateMachine_leaves
    { pp with rcvdSignalingPtr := m, rcvdSignalingMsg1 := true } pp' h

/-- **A turn of the loop that runs the machines** is one of the module. -/
theorem bridgeMachineTurn_vars (hn : n ≤ 8) {env : BridgeEnv n}
    (h : bridgeMachineTurn host env b i = some b') :
    ∃ verdict, machineTurn (env.tickEnv fun _ => verdict) b.vars i = some b'.vars := by
  obtain ⟨t, ht, h⟩ := Option.bind_eq_some_iff.mp h
  obtain ⟨g, hg, rfl⟩ := Option.map_eq_some_iff.mp h
  have hself := (delayMachines_verdict ht).self
  rw [pdelaySystem_port hn] at hself
  obtain ⟨verdict, hverdict⟩ := @takePdelay_vars n b t i (env.ptpTxBuf i) hn hself
    fun j hj => delayMachines_ports_of_ne ht (portOctet_ne hn hj) (portOctet_ne_eight hn)
  refine ⟨verdict, ?_⟩
  rw [hverdict] at hg
  show (portAnnounceInformation (b.vars.takeVerdict i verdict).system.gptp i).map _ = _
  rw [hg, Option.map_some]
  exact congrArg (fun v : GptpModule n => some (v.withGptp g)) hverdict.symm

/-- The loop is that of the module, with any verdicts that are as found on the ports of the list. -/
theorem bridgeMachineTurns_vars (hn : n ≤ 8) {env : BridgeEnv n} {l : List (Fin n)} (hl : l.Nodup)
    (h : l.foldlM (bridgeMachineTurn host env) b = some b') :
    ∃ found : Fin n → DelayVerdict, ∀ verdict, (∀ j ∈ l, verdict j = found j) →
      l.foldlM (machineTurn (env.tickEnv verdict)) b.vars = some b'.vars := by
  induction l generalizing b with
  | nil =>
    obtain rfl := Option.some_inj.mp h
    exact ⟨fun j => (b.vars.system.gptp.ports j).ownVerdict, fun _ _ => rfl⟩
  | cons i l ih =>
    obtain ⟨hi, hl⟩ := List.nodup_cons.mp hl
    obtain ⟨u, hu, hrest⟩ := Option.bind_eq_some_iff.mp h
    obtain ⟨own, hown⟩ := bridgeMachineTurn_vars hn hu
    obtain ⟨found, hfound⟩ := ih hl hrest
    refine ⟨Function.update found i own, fun verdict hverdict => ?_⟩
    have hself : (env.tickEnv verdict).verdict i = own := by
      show verdict i = own
      rw [hverdict i List.mem_cons_self, Function.update_self]
    have hturn : machineTurn (env.tickEnv verdict) b.vars i = some u.vars := by
      rw [← hown, machineTurn, machineTurn, hself]
      rfl
    refine Option.bind_eq_some_iff.mpr ⟨u.vars, hturn, hfound verdict fun j hj => ?_⟩
    have hne : j ≠ i := fun heq => hi (heq ▸ hj)
    rw [hverdict j (List.mem_cons_of_mem i hj), Function.update_of_ne hne]

/-- **A tick is a tick of the module**, with the verdicts of the delay machines. -/
theorem bridgeTick_vars (hn : n ≤ 8) {env : BridgeEnv n} (hsm : b.vars.currentSm = false)
    (h : bridgeTick host env b = some b') :
    ∃ verdict, vtssGptpTick host (env.tickEnv verdict) b.vars = some b'.vars := by
  have hwork : bridgeMoreWork host env
      { b with
        vars := { b.vars with timerTicks := b.vars.timerTicks + 1, currentSm := true } } =
      some b' := by
    rw [bridgeTick, bridgeFinishWork, hsm, if_neg Bool.false_ne_true, Option.bind_some,
      bridgeMachineUpdate, bridgeFinishWork] at h
    dsimp only at h
    rw [if_neg (by rw [hsm]; exact Bool.false_ne_true), Option.bind_some] at h
    exact h
  simp only [vtssGptpTick_eq hsm]
  rw [bridgeMoreWork, Bool.not_true, if_neg Bool.false_ne_true] at hwork
  by_cases hadmin : b.vars.adminEnabled = true
  · rw [if_pos hadmin] at hwork
    obtain ⟨u, hu, hwork⟩ := Option.bind_eq_some_iff.mp hwork
    obtain ⟨v, hv, rfl⟩ := Option.map_eq_some_iff.mp hwork
    obtain ⟨found, hfound⟩ := bridgeMachineTurns_vars hn (List.nodup_finRange n) hv
    refine ⟨found, ?_⟩
    rw [moreWork, Bool.not_true, if_neg Bool.false_ne_true, if_pos hadmin]
    refine Option.bind_eq_some_iff.mpr ⟨u, hu, ?_⟩
    rw [hfound found fun _ _ => rfl]
    rfl
  · rw [if_neg hadmin] at hwork
    refine ⟨fun i => (b.vars.system.gptp.ports i).ownVerdict, ?_⟩
    rw [moreWork, Bool.not_true, if_neg Bool.false_ne_true, if_neg hadmin]
    exact congrArg (Option.map Bridge.vars) hwork

/-! ### Calls and runs -/

theorem Bridge.init_vars : (b.init platform).vars = gptpInit platform.toPlatform b.vars := by
  rw [Bridge.init, gptpInit]
  split <;> rfl

/-- The peer delay mechanism finds what it left. -/
theorem pdelaySystem_takePdelay (hgm : t.grandmasterIdentity = b.vars.system.grandmasterIdentity) :
    (b.takePdelay t buf).pdelaySystem = t := by
  have hports : (b.takePdelay t buf).pdelaySystem.ports = t.ports := by
    funext q
    simp only [Bridge.pdelaySystem]
    split
    case isTrue hq =>
      have hoctet : portOctet (⟨q.toNat, hq⟩ : Fin n) = q := UInt8.ofNat_toNat
      simp only [Bridge.takePdelay, hoctet]
      rfl
    case isFalse => rfl
  obtain ⟨ports, identity, mechanism⟩ := t
  obtain rfl := hgm
  exact congrArg (fun ports => PdelaySystem.mk ports _ mechanism) hports

/-- Port `i` is disabled. -/
def PdelaySystem.disable (t : PdelaySystem) (i : Fin n) : PdelaySystem :=
  t.modify (portOctet i) fun pp => { pp with portEnabled := false }

theorem takePdelay_disable (hn : n ≤ 8) :
    ∃ verdict, (b.takePdelay (b.pdelaySystem.disable i) buf).vars = b.vars.takeVerdict i verdict := by
  refine takePdelay_vars hn ?_ fun j hj => ?_
  · rw [PdelaySystem.disable, PdelaySystem.modify_self, pdelaySystem_port hn]
    exact ⟨{ (b.vars.system.gptp.ports i).ownVerdict with portEnabled := false }, rfl⟩
  · exact PdelaySystem.modify_of_ne (portOctet_ne hn hj)

/-! ### The calls of the module -/

/-- A call of the module, but for the verdicts of the delay machines. -/
def ModuleInput.withoutVerdict : ModuleInput n → Option (ModuleInput n)
  | .vtssGptpTick env => some (.vtssGptpTick { env with verdict := fun _ => noVerdict })
  | .vtssGptpSetPortconfig env p config =>
    some (.vtssGptpSetPortconfig { env with verdict := fun _ => noVerdict } p config)
  | .delayReception _ _ => none
  | input => some input

/-- The same call of the module, if it is not one of the delay machines only. -/
def BridgeInput.moduleCall : BridgeInput n → Option (ModuleInput n)
  | .vtssGptpInit => some .vtssGptpInit
  | .vtssGptpDeinit => some .vtssGptpDeinit
  | .vtssGptpTick env => some (.vtssGptpTick (env.tickEnv fun _ => noVerdict))
  | .vtssGptpSetConfig config => some (.vtssGptpSetConfig config)
  | .vtssGptpSetPortconfig env p config _ =>
    some (.vtssGptpSetPortconfig (env.tickEnv fun _ => noVerdict) p config)
  | .processRxAnnounce p rxBuffer => some (.processRxAnnounce p rxBuffer)
  | .processRxSync p clock locals rxBuffer => some (.processRxSync p clock locals rxBuffer)
  | .processRxFup p clock locals rxBuffer => some (.processRxFup p clock locals rxBuffer)
  | _ => none

/-- What `calls` make of the variables of the module, a run of the module on the same calls makes of
them, too. -/
def RunsAs (platform : Platform) (calls : List (BridgeInput n)) (v v' : GptpModule n) : Prop :=
  ∃ inputs, inputs.filterMap ModuleInput.withoutVerdict = calls.filterMap BridgeInput.moduleCall ∧
    Runs.run (moduleStep platform) v inputs = some v'

theorem RunsAs.nil {platform : Platform} {v : GptpModule n} : RunsAs platform [] v v :=
  ⟨[], rfl, rfl⟩

theorem RunsAs.append {platform : Platform} {before after : List (BridgeInput n)}
    {v w v' : GptpModule n} (hbefore : RunsAs platform before v w)
    (hafter : RunsAs platform after w v') : RunsAs platform (before ++ after) v v' := by
  obtain ⟨inputs, hinputs, hrun⟩ := hbefore
  obtain ⟨inputs', hinputs', hrun'⟩ := hafter
  refine ⟨inputs ++ inputs', ?_, Runs.run_append_eq_some.mpr ⟨w, hrun, hrun'⟩⟩
  rw [List.filterMap_append, List.filterMap_append, hinputs, hinputs']

theorem RunsAs.single {platform : Platform} {v v' : GptpModule n} {call : ModuleInput n}
    (hcall : [call].filterMap ModuleInput.withoutVerdict = [input].filterMap BridgeInput.moduleCall)
    (h : moduleStep platform v call = some v') : RunsAs platform [input] v v' :=
  ⟨[call], hcall, Runs.run_singleton.trans h⟩

theorem run_delayReception {platform : Platform} {v : GptpModule n} {verdict : DelayVerdict} :
    Runs.run (moduleStep platform) v [.delayReception i verdict] = some (v.takeVerdict i verdict) :=
  Runs.run_singleton

/-- What a request does to the ports: nothing, or its own port is disabled, or another one too. -/
theorem processRxPdelayReq_ports (hn : n ≤ 8) {m : Mem} :
    let t := (processRxPdelayReq host clock b.responder (portOctet p) m).1.toPdelaySystem
    t = b.pdelaySystem ∨ t = b.pdelaySystem.disable p ∨
      ∃ j : Fin n, t = (b.pdelaySystem.disable p).disable j := by
  intro t
  by_cases hown : compareClockIdentity (getSourcePortId m).clockIdentity
      b.responder.rootClockIdentity ≠ .eq
  · left
    show (processRxPdelayReq host clock b.responder (portOctet p) m).1.toPdelaySystem = _
    rw [processRxPdelayReq, if_pos hown]
    rfl
  · right
    show (processRxPdelayReq host clock b.responder (portOctet p) m).1.toPdelaySystem = _ ∨
      ∃ j : Fin n, (processRxPdelayReq host clock b.responder (portOctet p) m).1.toPdelaySystem = _
    rw [processRxPdelayReq, if_neg hown]
    dsimp only
    split
    case isTrue hport =>
      have hnum : (UInt8.ofNat n).toNat = n := by
        rw [UInt8.toNat_ofNat']
        omega
      have hlt : (getSourcePortId m).portNumber.get - 1 < n := by
        have hle : (getSourcePortId m).portNumber.get ≤ (UInt8.ofNat n).toNat := hport.2
        omega
      exact Or.inr ⟨⟨_, hlt⟩, rfl⟩
    case isFalse => exact Or.inl rfl

theorem processRxPdelayReq_run (hn : n ≤ 8) {platform : Platform} {m : Mem} :
    let r := (processRxPdelayReq host clock b.responder (portOctet p) m).1
    RunsAs platform [] b.vars (b.takePdelay r.toPdelaySystem r.ptpTxBuf).vars := by
  intro r
  rcases @processRxPdelayReq_ports n host clock b p hn m with hnone | hown | ⟨j, hboth⟩
  · obtain ⟨verdict, hverdict⟩ := @takePdelay_vars n b b.pdelaySystem p r.ptpTxBuf hn
      (by rw [pdelaySystem_port hn]; exact .refl) fun _ _ => rfl
    exact ⟨[.delayReception p verdict], rfl,
      run_delayReception.trans (by rw [show r.toPdelaySystem = _ from hnone, hverdict])⟩
  · obtain ⟨verdict, hverdict⟩ := @takePdelay_disable n b p r.ptpTxBuf hn
    exact ⟨[.delayReception p verdict], rfl,
      run_delayReception.trans (by rw [show r.toPdelaySystem = _ from hown, hverdict])⟩
  · -- the second port is disabled in the instance that the first one leaves
    obtain ⟨verdict, hverdict⟩ := @takePdelay_disable n b p r.ptpTxBuf hn
    obtain ⟨verdict', hverdict'⟩ := @takePdelay_disable n
      (b.takePdelay (b.pdelaySystem.disable p) r.ptpTxBuf) j r.ptpTxBuf hn
    refine ⟨[.delayReception p verdict] ++ [.delayReception j verdict'], rfl,
      Runs.run_append_eq_some.mpr ⟨_, run_delayReception, run_delayReception.trans ?_⟩⟩
    rw [← hverdict, ← hverdict', pdelaySystem_takePdelay rfl, show r.toPdelaySystem = _ from hboth]
    rfl

theorem takePdelayResp_toPort (host : Host) (clock : Clock) (m : RxFrame) (pp : PdelayPort) :
    (takePdelayResp host clock m pp).toPort = pp.toPort := rfl

theorem takePdelayRespFup_toPort (m : RxFrame) (pp : PdelayPort) :
    (takePdelayRespFup m pp).toPort = pp.toPort := rfl

/-- What the peer delay mechanism does to one port is a call of the module. -/
theorem run_takePdelay (hn : n ≤ 8) (p : Fin n) {platform : Platform}
    (hself : SameButVerdict (b.vars.system.gptp.ports p) (t.ports (portOctet p)).toPort)
    (hothers : ∀ j, j ≠ p → t.ports (portOctet j) = b.pdelaySystem.ports (portOctet j)) :
    RunsAs platform [] b.vars (b.takePdelay t buf).vars := by
  obtain ⟨verdict, hverdict⟩ := @takePdelay_vars n b t p buf hn hself hothers
  exact ⟨[.delayReception p verdict], rfl,
    run_delayReception.trans (congrArg some hverdict.symm)⟩

theorem mdPdelayReq_run (hn : n ≤ 8) {platform : Platform} {f : PdelayPort → PdelayPort}
    (hf : ∀ pp : PdelayPort, (f pp).toPort = pp.toPort)
    (h : mdPdelayReqStateMachine fuel host clock (b.pdelaySystem.modify (portOctet p) f)
      (portOctet p) = some (w, entries)) :
    RunsAs platform [] b.vars (b.takePdelay w buf).vars := by
  obtain ⟨hleaves, hothers⟩ := mdPdelayReqStateMachine_leaves h
  refine run_takePdelay hn p ?_ fun j hj => ?_
  · have hself := hleaves.self
    rw [PdelaySystem.modify_self, hf, pdelaySystem_port hn] at hself
    exact hself
  · rw [hothers _ (portOctet_ne hn hj) (portOctet_ne_eight hn),
      PdelaySystem.modify_of_ne (portOctet_ne hn hj)]

theorem processRxSignaling_run (hn : n ≤ 8) {platform : Platform} {m : Mem}
    (h : processRxSignalingOn b.pdelaySystem (portOctet p) m = some w) :
    RunsAs platform [] b.vars (b.takePdelay w buf).vars := by
  obtain ⟨pp, hpp, rfl⟩ := Option.map_eq_some_iff.mp h
  refine run_takePdelay hn p ?_ fun j hj => PdelaySystem.modify_of_ne (portOctet_ne hn hj)
  have hself := processRxSignaling_leaves hpp
  rw [pdelaySystem_port hn] at hself
  rw [PdelaySystem.modify_self]
  exact hself

/-- **A call of the instance** is one call of the module, or a few. -/
theorem bridgeStep_moduleRun (hn : n ≤ 8) (hsm : b.vars.currentSm = false)
    (h : bridgeStep platform b input = some b') :
    RunsAs platform.toPlatform [input] b.vars b'.vars := by
  cases input with
  | vtssGptpInit =>
    obtain rfl := Option.some_inj.mp h
    have hinit : moduleStep platform.toPlatform b.vars .vtssGptpInit = _ :=
      congrArg some Bridge.init_vars.symm
    exact RunsAs.single rfl hinit
  | vtssGptpDeinit =>
    obtain rfl := Option.some_inj.mp h
    have hdeinit : moduleStep platform.toPlatform b.vars .vtssGptpDeinit =
        some (b.swInit platform).vars := rfl
    exact RunsAs.single rfl hdeinit
  | vtssGptpTick env =>
    obtain ⟨verdict, hverdict⟩ := bridgeTick_vars hn hsm h
    have htick : moduleStep platform.toPlatform b.vars (.vtssGptpTick (env.tickEnv verdict)) =
        some b'.vars := hverdict
    exact RunsAs.single rfl htick
  | vtssGptpSetConfig config =>
    obtain rfl := Option.some_inj.mp h
    have hset : moduleStep platform.toPlatform b.vars (.vtssGptpSetConfig config) =
        some ((b.init platform).vars.withGptp
          { (b.init platform).vars.system.gptp with systemConfig := config }) := by
      rw [moduleStep, ← Bridge.init_vars]
    exact RunsAs.single rfl hset
  | vtssGptpSetPortconfig env p config delayConfig =>
    obtain ⟨u, hu, rfl⟩ := Option.map_eq_some_iff.mp h
    have hinit : (gptpInit platform.toPlatform b.vars).currentSm = false :=
      @moduleStep_currentSm n b.vars _ platform.toPlatform .vtssGptpInit hsm rfl
    rw [bridgeFinishWork, Bridge.init_vars, hinit, if_neg Bool.false_ne_true] at hu
    obtain rfl := Option.some_inj.mp hu
    have hset : moduleStep platform.toPlatform b.vars
        (.vtssGptpSetPortconfig (env.tickEnv fun _ => noVerdict) p config) =
        some ((b.init platform).vars.setPortconfig p config) := by
      rw [moduleStep, finishGptpWork, hinit, if_neg Bool.false_ne_true, ← Bridge.init_vars]
      rfl
    exact RunsAs.single rfl hset
  | processRxAnnounce p m =>
    obtain ⟨g, hg, rfl⟩ := Option.map_eq_some_iff.mp h
    have hreceive : moduleStep platform.toPlatform b.vars (.processRxAnnounce p m) =
        some (b.vars.withGptp g) := by
      rw [moduleStep, show processRxAnnounce platform.host.bigEndian _ p m = _ from hg]
      rfl
    exact RunsAs.single rfl hreceive
  | processRxSync p clock locals m =>
    obtain rfl := Option.some_inj.mp h
    have hreceive : moduleStep platform.toPlatform b.vars (.processRxSync p clock locals m) =
        some { b.vars with
          system := processRxSync platform.host clock locals b.vars.system p m } := rfl
    exact RunsAs.single rfl hreceive
  | processRxFup p clock locals m =>
    obtain ⟨r, hr, rfl⟩ := Option.map_eq_some_iff.mp h
    have hreceive : moduleStep platform.toPlatform b.vars (.processRxFup p clock locals m) =
        some { b.vars with
          system := r.1
          sent := b.vars.sent ++ r.2.map fun frames => .sync frames.1 frames.2 } := by
      rw [moduleStep, show processRxFup platform.host clock locals _ _ p m = _ from hr]
      rfl
    exact RunsAs.single rfl hreceive
  | processRxPdelayReq p clock m =>
    obtain rfl := Option.some_inj.mp h
    exact processRxPdelayReq_run hn
  | processRxPdelayResp p fuel clock m buf =>
    obtain ⟨⟨w, entries⟩, hw, rfl⟩ := Option.map_eq_some_iff.mp h
    exact mdPdelayReq_run hn (takePdelayResp_toPort platform.host clock m) hw
  | processRxPdelayRespFup p fuel clock m buf =>
    obtain ⟨⟨w, entries⟩, hw, rfl⟩ := Option.map_eq_some_iff.mp h
    exact mdPdelayReq_run hn (takePdelayRespFup_toPort m) hw
  | processRxSignaling p m =>
    obtain ⟨w, hw, rfl⟩ := Option.map_eq_some_iff.mp h
    exact processRxSignaling_run hn hw

theorem moduleRun_currentSm {platform : Platform} {v v' : GptpModule n}
    {inputs : List (ModuleInput n)} (hsm : v.currentSm = false)
    (h : Runs.run (moduleStep platform) v inputs = some v') : v'.currentSm = false :=
  Runs.run_invariant (fun hI hstep => moduleStep_currentSm hI hstep) hsm h

/-- No work is left unfinished between two calls. -/
theorem bridgeStep_currentSm (hn : n ≤ 8) (hsm : b.vars.currentSm = false)
    (h : bridgeStep platform b input = some b') : b'.vars.currentSm = false := by
  obtain ⟨inputs, -, hinputs⟩ := bridgeStep_moduleRun hn hsm h
  exact moduleRun_currentSm hsm hinputs

/-- The runs that the calls of a run come to, one after the other. -/
theorem run_runsAs {calls : List (BridgeInput n)} (hn : n ≤ 8) (hsm : b.vars.currentSm = false)
    (hrun : Runs.run (bridgeStep platform) b calls = some b') :
    RunsAs platform.toPlatform calls b.vars b'.vars := by
  induction calls generalizing b with
  | nil =>
    obtain rfl := Option.some_inj.mp hrun
    exact RunsAs.nil
  | cons call calls ih =>
    obtain ⟨u, hu, hrest⟩ := Runs.run_cons_eq_some.mp hrun
    exact (bridgeStep_moduleRun hn hsm hu).append (ih (bridgeStep_currentSm hn hsm hu) hrest)

/-- **The instance refines the module**: what a run makes of the variables of the module, a run of the
module makes of them that has the same calls in the same order, with the verdicts that the delay
machines come to.

A request is recorded in entry 8 of the ports, which is behind the ports of the platform.  It is
taken to lie in the array: `VTSS_GPTP_MAX_PORTS` is above 8.  With eight entries the write is out of
bounds. -/
theorem bridge_refines (platform : BridgePlatform n) (inputs : List (BridgeInput n))
    (b b' : Bridge n) (hn : n ≤ 8) (hsm : b.vars.currentSm = false)
    (hrun : Runs.run (bridgeStep platform) b inputs = some b') :
    RunsAs platform.toPlatform inputs b.vars b'.vars :=
  run_runsAs hn hsm hrun

/-! ### Two ports -/

def bridgePlatform (n : ℕ) : BridgePlatform n :=
  { host := bigEndianHost
    mac := exampleMac
    rxPhyMacDelay := ⟨0, 0, 1⟩
    portMac := fun _ => exampleMac }

def bridgeEnv (n : ℕ) : BridgeEnv n :=
  ⟨fun _ => atBoot, fun _ => atBoot, fun _ => atBoot, 8, fun _ _ => 0⟩

def unwrittenBridge (n : ℕ) : Bridge n :=
  Bridge.staticMemory ⟨248, 248⟩ (fun _ => ⟨3, 3⟩) (fun _ => ⟨3, 800⟩) fun _ => 0

theorem bridge_refines_tick :
    ∃ b', Runs.run (bridgeStep (bridgePlatform 2)) (unwrittenBridge 2)
        [.vtssGptpInit, .vtssGptpTick (bridgeEnv 2)] = some b' ∧
      RunsAs (bridgePlatform 2).toPlatform [.vtssGptpInit, .vtssGptpTick (bridgeEnv 2)]
        (unwrittenBridge 2).vars b'.vars := by
  have hsome : (Runs.run (bridgeStep (bridgePlatform 2)) (unwrittenBridge 2)
      [.vtssGptpInit, .vtssGptpTick (bridgeEnv 2)]).isSome = true := by decide +kernel
  obtain ⟨b', hb'⟩ := Option.isSome_iff_exists.mp hsome
  exact ⟨b', hb', bridge_refines _ _ (unwrittenBridge 2) b' (by omega) rfl hb'⟩

end Gptp
