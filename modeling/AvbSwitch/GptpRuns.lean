/-
Runs of a gPTP instance: received Announce messages, runs of the two announce machines,
and what its environment changes.

* `portRoleSelection_sameInfo` — a role selection leaves each port's own information alone;
* `Sound` — what holds in every state that a freshly initialised instance comes to: a port
  without information has a vector of ones, and where a frame is read there is one;
* `step_isSome` — from such a state, the only step that is not defined is to receive an
  Announce message with a path trace longer than the array it is copied to.
-/
import AvbSwitch.PortAnnounce
import AvbSwitch.RoleSelection
import AvbSwitch.Runs

open Octets

namespace Gptp

variable {n : ℕ}

/-! ### Initialisation -/

/-- `vtss_gptp_vars` before it is first written, with the configuration of the platform.
The role of a port and `gmPriority` have no value yet; neither is read before it is set. -/
def staticMemory (systemConfig : SystemConfig) (portConfig : Fin n → PortConfig) : Gptpm n where
  ports i :=
    { portConfig := portConfig i
      selectedRole := .disabled
      asCapable := false
      currentLogSyncInterval := 0
      portEnabled := false
      pttPortEnabled := false
      reselect := false
      selected := false
      infoIs := .disabled
      masterPriority := .memset 0
      currentLogAnnounceInterval := 0
      newInfo := false
      portPriority := .memset 0
      gmPathPriority := .memset 0
      portStepsRemoved := 0
      rcvdAnnouncePtr := none
      rcvdMsg := false
      updtInfo := false
      portAnnounceInformationState := .begin
      announceTimeoutCounter := 0
      messagePriority := .memset 0
      rcvdInfo := .superiorMasterInfo
      syncReceiptTimeout := 0
      announceReceiptTimeout := 0
      syncTimeoutCounter := 0
      annCurrentUtcOffset := 0
      annleap59 := 0
      annleap61 := 0
      anncurrentUtcOffsetValid := 0
      anntimeTraceable := 0
      annfrequencyTraceable := 0
      anntimeSource := 0 }
  systemConfig := systemConfig
  gmPresent := false
  masterStepsRemoved := 0
  systemPriority := .memset 0
  gmPriority := .lastGmPriority
  lastGmPriority := .memset 0
  pathTraceLength := 0
  pathTrace _ := Vector.replicate 8 0
  portRoleSelectionState := .initBridge
  newMaster := false
  currentUtcOffset := 0
  leap59 := 0
  leap61 := 0
  currentUtcOffsetValid := 0
  timeTraceable := 0
  frequencyTraceable := 0
  timeSource := 0
  grandMaster := false

/-- The vector of the system itself. -/
def systemPriorityOf (mac : Vector UInt8 6) (config : SystemConfig) : PriorityVector where
  rootSystemIdentity :=
    { priority1 := config.prio1
      clockClass := 248
      clockAccuracy := 254
      offsetScaledLogVariance := .put 1
      priority2 := config.prio2
      clockIdentity := clockIdentityOf mac }
  stepsRemoved := .put 0
  sourcePortIdentity := ⟨clockIdentityOf mac, .put 0⟩
  portNumber := .put 0

/-- `gptp_sw_init` up to the role selection, with `DEFAULT_SOURCE_MAC` as a parameter. -/
def gptpSwReset (mac : Vector UInt8 6) (g : Gptpm n) : Gptpm n :=
  { g with
    systemPriority := systemPriorityOf mac g.systemConfig
    pathTraceLength := 1
    pathTrace := fun k => if k = ⟨0, maxPathTrace_pos⟩ then clockIdentityOf mac else g.pathTrace k
    ports := fun i =>
      { g.ports i with
        currentLogSyncInterval := 3
        portEnabled := true
        pttPortEnabled := true
        asCapable := true
        currentLogAnnounceInterval := 0
        syncReceiptTimeout := (g.ports i).portConfig.syncReceiptTimeOut.toInt8
        announceReceiptTimeout := (g.ports i).portConfig.announceReceiptTimeout
        portAnnounceInformationState := .begin }
    portRoleSelectionState := .initBridge }

/-- `gptp_sw_init`. -/
def gptpSwInit (mac : Vector UInt8 6) (g : Gptpm n) : Gptpm n :=
  let g := portRoleSelection (gptpSwReset mac g)
  { g with
    newMaster := true
    ports := fun i => { g.ports i with announceTimeoutCounter := 0, syncTimeoutCounter := 0 } }

/-! ### Steps -/

/-- What happens to an instance. -/
inductive Input (n : ℕ)
  | processRxAnnounce (p : Fin n) (rxBuffer : Mem)
  | portAnnounceInformation (p : Fin n)
  | portRoleSelection
  | setPortEnabled (p : Fin n) (enabled : Bool)
  | setPttPortEnabled (p : Fin n) (enabled : Bool)
  | setAsCapable (p : Fin n) (capable : Bool)
  | setAnnounceTimeoutCounter (p : Fin n) (ticks : UInt32)
  | setSyncTimeoutCounter (p : Fin n) (ticks : UInt32)

def step (bigEndian : Bool) (t : Gptpm n) : Input n → Option (Gptpm n)
  | .processRxAnnounce p rxBuffer => processRxAnnounce bigEndian t p rxBuffer
  | .portAnnounceInformation p => portAnnounceInformation t p
  | .portRoleSelection => some (portRoleSelection t)
  | .setPortEnabled p enabled => some (t.setPort p { t.ports p with portEnabled := enabled })
  | .setPttPortEnabled p enabled =>
    some (t.setPort p { t.ports p with pttPortEnabled := enabled })
  | .setAsCapable p capable => some (t.setPort p { t.ports p with asCapable := capable })
  | .setAnnounceTimeoutCounter p ticks =>
    some (t.setPort p { t.ports p with announceTimeoutCounter := ticks })
  | .setSyncTimeoutCounter p ticks =>
    some (t.setPort p { t.ports p with syncTimeoutCounter := ticks })

/-! ### What a role selection leaves alone -/

variable {bigEndian : Bool} {t t' : Gptpm n} {p q i : Fin n} {pp pp' pp'' : Port} {m : Mem}
  {mac : Vector UInt8 6} {systemConfig : SystemConfig} {portConfig : Fin n → PortConfig}

/-- The information that a port holds, and what it has received, are the same. -/
structure SameInfo (pp pp' : Port) : Prop where
  infoIs : pp'.infoIs = pp.infoIs
  portPriority : pp'.portPriority = pp.portPriority
  state : pp'.portAnnounceInformationState = pp.portAnnounceInformationState
  rcvdMsg : pp'.rcvdMsg = pp.rcvdMsg
  rcvdAnnouncePtr : pp'.rcvdAnnouncePtr = pp.rcvdAnnouncePtr

theorem SameInfo.refl : SameInfo pp pp := ⟨rfl, rfl, rfl, rfl, rfl⟩

theorem SameInfo.trans (h : SameInfo pp pp') (h' : SameInfo pp' pp'') : SameInfo pp pp'' where
  infoIs := h'.infoIs.trans h.infoIs
  portPriority := h'.portPriority.trans h.portPriority
  state := h'.state.trans h.state
  rcvdMsg := h'.rcvdMsg.trans h.rcvdMsg
  rcvdAnnouncePtr := h'.rcvdAnnouncePtr.trans h.rcvdAnnouncePtr

theorem computeGmPathPriority_sameInfo {gmPresent : Bool} :
    SameInfo pp (computeGmPathPriority gmPresent pp) := by
  rw [computeGmPathPriority]
  split <;> exact ⟨rfl, rfl, rfl, rfl, rfl⟩

theorem assignRole_sameInfo : SameInfo (t.ports i) (assignRole t i) := by
  rw [assignRole]
  split
  case h_4 => split_ifs <;> exact ⟨rfl, rfl, rfl, rfl, rfl⟩
  all_goals exact ⟨rfl, rfl, rfl, rfl, rfl⟩

theorem updtRolesTree_sameInfo : SameInfo (t.ports i) ((updtRolesTree t).ports i) := by
  rw [updtRolesTree_ports]
  refine SameInfo.trans ?_ assignRole_sameInfo
  rw [updateGmPriority_best.ports]
  exact computeGmPathPriority_sameInfo

theorem portRoleSelectionTurn_sameInfo :
    SameInfo (t.ports i) ((portRoleSelectionTurn t).ports i) := by
  rw [portRoleSelectionTurn]
  split
  · exact ⟨rfl, rfl, rfl, rfl, rfl⟩
  · split
    · have hroles := updtRolesTree_sameInfo (t := clearReselectTree t) (i := i)
      exact ⟨hroles.infoIs, hroles.portPriority, hroles.state, hroles.rcvdMsg,
        hroles.rcvdAnnouncePtr⟩
    · exact SameInfo.refl

theorem portRoleSelection_sameInfo : SameInfo (t.ports i) ((portRoleSelection t).ports i) := by
  rw [portRoleSelection]
  split
  · exact portRoleSelectionTurn_sameInfo
  · exact portRoleSelectionTurn_sameInfo.trans portRoleSelectionTurn_sameInfo

theorem updtRolesTree_systemPriority : (updtRolesTree t).systemPriority = t.systemPriority :=
  updateGmPriority_best.systemPriority

theorem portRoleSelectionTurn_systemPriority :
    (portRoleSelectionTurn t).systemPriority = t.systemPriority := by
  rw [portRoleSelectionTurn]
  split
  · rfl
  · split
    · exact updtRolesTree_systemPriority
    · rfl

theorem portRoleSelection_systemPriority :
    (portRoleSelection t).systemPriority = t.systemPriority := by
  rw [portRoleSelection]
  split
  · exact portRoleSelectionTurn_systemPriority
  · rw [portRoleSelectionTurn_systemPriority, portRoleSelectionTurn_systemPriority]

/-! ### What holds in every state -/

/-- Receiving a message writes two fields of one port. -/
theorem qualifyAnnounce_frame {r : Gptpm n × Bool}
    (h : qualifyAnnounce bigEndian t p m = some r) :
    r.1.ports = t.ports ∧ r.1.systemPriority = t.systemPriority := by
  simp only [qualifyAnnounce] at h
  split_ifs at h <;> obtain rfl := Option.some_inj.mp h <;> exact ⟨rfl, rfl⟩

theorem processRxAnnounce_eq (h : processRxAnnounce bigEndian t p m = some t') :
    t'.systemPriority = t.systemPriority ∧ (∀ q, q ≠ p → t'.ports q = t.ports q) ∧
      ∃ rcvdMsg, t'.ports p =
        { t.ports p with rcvdAnnouncePtr := some m, rcvdMsg := rcvdMsg } := by
  rw [processRxAnnounce, portAnnounceReceive] at h
  split at h
  · obtain ⟨r, hr, rfl⟩ := Option.map_eq_some_iff.mp h
    obtain ⟨hports, hsystem⟩ := qualifyAnnounce_frame hr
    refine ⟨hsystem, fun q hq => ?_, r.2, ?_⟩
    · rw [Gptpm.setPort_ports_of_ne hq, hports, Gptpm.setPort_ports_of_ne hq]
    · rw [Gptpm.setPort_ports_self, hports, Gptpm.setPort_ports_self]
  · obtain rfl := Option.some_inj.mp h
    refine ⟨rfl, fun q hq => ?_, false, ?_⟩
    · rw [Gptpm.setPort_ports_of_ne hq, Gptpm.setPort_ports_of_ne hq]
    · rw [Gptpm.setPort_ports_self, Gptpm.setPort_ports_self]

theorem qualifyAnnounce_eq_with {r : Gptpm n × Bool} (h : qualifyAnnounce bigEndian t p m = some r) :
    r.1 = { t with pathTrace := r.1.pathTrace, pathTraceLength := r.1.pathTraceLength } := by
  simp only [qualifyAnnounce] at h
  split_ifs at h <;> obtain rfl := Option.some_inj.mp h <;> rfl

/-- Receiving a message writes the pointer and the flag of its port, and the path trace. -/
theorem processRxAnnounce_eq_with (h : processRxAnnounce bigEndian t p m = some t') :
    ∃ rcvdMsg pathTrace pathTraceLength, t' =
      { t.setPort p { t.ports p with rcvdAnnouncePtr := some m, rcvdMsg := rcvdMsg } with
        pathTrace := pathTrace
        pathTraceLength := pathTraceLength } := by
  rw [processRxAnnounce, portAnnounceReceive] at h
  split at h
  · obtain ⟨⟨u, rcvdMsg⟩, hr, rfl⟩ := Option.map_eq_some_iff.mp h
    have hu : u = _ := qualifyAnnounce_eq_with hr
    refine ⟨rcvdMsg, u.pathTrace, u.pathTraceLength, ?_⟩
    show u.setPort p { u.ports p with rcvdMsg := rcvdMsg } = _
    rw [hu]
    simp only [Gptpm.setPort, Function.update_self, Function.update_idem]
  · obtain rfl := Option.some_inj.mp h
    refine ⟨false, t.pathTrace, t.pathTraceLength, ?_⟩
    simp only [Gptpm.setPort, Function.update_self, Function.update_idem]

/-- What holds of a port in every state. -/
structure PortSound (pp : Port) : Prop where
  vacant : pp.infoIs = .disabled → pp.portAnnounceInformationState ≠ .begin →
    pp.portPriority = .memset 0xFF
  readable : Readable pp

/-- What holds of an instance in every state. -/
structure Sound (t : Gptpm n) : Prop where
  clockClass : t.systemPriority.rootSystemIdentity.clockClass = 248
  ports : ∀ i, PortSound (t.ports i)

theorem PortSound.of_sameInfo (hs : PortSound pp) (h : SameInfo pp pp') : PortSound pp' where
  vacant hinfo hstate := by
    rw [h.portPriority]
    exact hs.vacant (h.infoIs ▸ hinfo) (h.state ▸ hstate)
  readable hr := by
    rw [h.rcvdAnnouncePtr]
    exact hs.readable (h.rcvdMsg ▸ h.state ▸ hr)

/-- From its first state a port goes on to be without information. -/
theorem nextState_begin {gmPresent : Bool} (h : pp.portAnnounceInformationState = .begin) :
    nextState gmPresent pp = some .disabled := by
  rw [nextState, h]
  split
  · rfl
  · exact if_neg PortAnnounceInformationState.noConfusion

theorem PortSound.setState {gmPresent : Bool} {masterStepsRemoved : UInt16} {port : ℕ}
    {s : PortAnnounceInformationState} (hs : PortSound pp)
    (hnext : nextState gmPresent pp = some s)
    (hset : setState masterStepsRemoved port pp s = some pp') : PortSound pp' := by
  refine ⟨fun hinfo _ => ?_, hs.readable.setState hnext hset⟩
  -- the actions that leave `infoIs` alone are not entered from the first state
  have hstate : s ≠ .disabled → pp.portAnnounceInformationState ≠ .begin := fun hne hbegin =>
    hne (Option.some_inj.mp (hnext.symm.trans (nextState_begin hbegin)))
  cases s <;> simp only [Gptp.setState, Option.some_inj, Option.map_eq_some_iff] at hset
  case begin | disabled => exact hset ▸ rfl
  case aged | update =>
    subst hset
    cases hinfo
  case superiorMasterPort =>
    obtain ⟨m, -, rfl⟩ := hset
    cases hinfo
  case receive =>
    obtain ⟨m, -, rfl⟩ := hset
    exact hs.vacant hinfo (hstate PortAnnounceInformationState.noConfusion)
  all_goals
    subst hset
    exact hs.vacant hinfo (hstate PortAnnounceInformationState.noConfusion)

theorem Sound.setPort (hs : Sound t) (hp : PortSound pp) : Sound (t.setPort p pp) where
  clockClass := hs.clockClass
  ports i := by
    by_cases hi : i = p
    · rw [hi, Gptpm.setPort_ports_self]
      exact hp
    · rw [Gptpm.setPort_ports_of_ne hi]
      exact hs.ports i

/-- **Every step keeps an instance sound.** -/
theorem Sound.step {input : Input n} (hs : Sound t) (h : step bigEndian t input = some t') :
    Sound t' := by
  cases input with
  | processRxAnnounce p m =>
    obtain ⟨hsystem, hother, rcvdMsg, hself⟩ := processRxAnnounce_eq h
    refine ⟨hsystem ▸ hs.clockClass, fun i => ?_⟩
    by_cases hi : i = p
    · rw [hi, hself]
      exact ⟨(hs.ports p).vacant, fun _ => rfl⟩
    · rw [hother i hi]
      exact hs.ports i
  | portAnnounceInformation p =>
    obtain ⟨pp, hpp, rfl⟩ := portAnnounceInformation_invariant PortSound.setState (hs.ports p) h
    exact hs.setPort hpp
  | portRoleSelection =>
    obtain rfl := Option.some_inj.mp h
    exact ⟨(congrArg (·.rootSystemIdentity.clockClass) portRoleSelection_systemPriority).trans
      hs.clockClass, fun i =>
      (hs.ports i).of_sameInfo portRoleSelection_sameInfo⟩
  | _ =>
    obtain rfl := Option.some_inj.mp h
    exact hs.setPort ((hs.ports _).of_sameInfo ⟨rfl, rfl, rfl, rfl, rfl⟩)

theorem gptpSwInit_sound : Sound (gptpSwInit mac (staticMemory systemConfig portConfig)) where
  clockClass := congrArg (·.rootSystemIdentity.clockClass) portRoleSelection_systemPriority
  ports i := by
    -- every port is still in its first state
    have hinfo := portRoleSelection_sameInfo
      (t := gptpSwReset mac (staticMemory systemConfig portConfig)) (i := i)
    refine ⟨fun _ hstate => absurd hinfo.state hstate, fun hr => ?_⟩
    rcases hr with hmsg | hstate
    · exact absurd (hinfo.rcvdMsg.symm.trans hmsg) nofun
    · exact absurd (hinfo.state.symm.trans hstate) nofun

theorem qualifyAnnounce_isSome (h : rxPathTraceLength bigEndian m ≤ maxPathTrace) :
    (qualifyAnnounce bigEndian t p m).isSome := by
  simp only [qualifyAnnounce]
  split_ifs with _ _ _ hover
  · rfl
  · rfl
  · rfl
  · exact absurd h (Nat.not_le.mpr hover)
  · rfl
  · rfl

/-- A step is undefined only where the path trace of a message does not fit the array. -/
theorem step_isSome {input : Input n} (hs : Sound t)
    (h : ∀ p m, input = .processRxAnnounce p m → rxPathTraceLength bigEndian m ≤ maxPathTrace) :
    (step bigEndian t input).isSome := by
  cases input with
  | processRxAnnounce p m =>
    show (processRxAnnounce bigEndian t p m).isSome
    rw [processRxAnnounce, portAnnounceReceive]
    split
    · rw [Option.isSome_map]
      exact qualifyAnnounce_isSome (h p m rfl)
    · rfl
  | portAnnounceInformation p => exact portAnnounceInformation_isSome (hs.ports p).readable
  | _ => rfl

end Gptp
