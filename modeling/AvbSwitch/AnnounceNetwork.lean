/-
Any number of systems, joined in any way.

Each system is an instance of the module, with ports of its own and any verdicts of the delay
machines; it can be initialised anew and configured at any time.  What it announces on a port may
come in on every port that is joined with it, at any time, any number of times and in any order, or
not at all.

In one system the roots that occur, in frames and in vectors, are those that some system from which
there is a way to it was configured with, and the ones of a port without information (`Informed`).
A selection is made in a tick only, and not before the machine of every port has run: so the vector
of static memory, which a single selection could take over, is never looked at.

* `moduleStep_informed` — a system learns no root but from the frames that it receives;
* `slaves_follow_better` — in every run of the network, a system with a slave port follows the root
  of another system from which there is a way to it, and one that is smaller than its own.
-/
import AvbSwitch.InformationAgeing
import AvbSwitch.LinkedSystems
import AvbSwitch.Networks

open Octets

namespace Gptp

section System

variable {n : ℕ} {K : Set SystemIdentity} {configs : Set SystemConfig} {mac : Vector UInt8 6}
  {t t' : Gptpm n} {s s' u : GptpModule n} {p i : Fin n} {pp pp' : Port} {host : Host}
  {env : TickEnv n} {platform : Platform} {input : ModuleInput n} {ticks : UInt32}

/-! ### A selection -/

/-- The vectors of all ports have roots that are known. -/
def AllKnown (K : Set SystemIdentity) (t : Gptpm n) : Prop :=
  ∀ i, (t.ports i).portPriority.rootSystemIdentity ∈ K

/-- A selection takes over one of the vectors that the ports hold, if their roots are known. -/
theorem NodeSound.select (hones : onesRoot ∈ K) (hown : t.ownRoot ∈ K) (ht : NodeSound (· ∈ K) t)
    (hknown : Reselecting t → AllKnown K t) : NodeSound (· ∈ K) (portRoleSelection t) := by
  by_cases hreselect : Reselecting t
  case neg =>
    rw [portRoleSelection_of_not_reselecting ht.selecting hreselect]
    exact ht
  have hknown := hknown hreselect
  have hsystem : (portRoleSelection t).systemPriority = t.systemPriority :=
    portRoleSelection_systemPriority
  have hsound : Sound (portRoleSelection t) :=
    @Sound.step n true t _ .portRoleSelection ht.sound rfl
  have hinfo : ∀ i, SameInfo (t.ports i) ((portRoleSelection t).ports i) :=
    fun i => portRoleSelection_sameInfo
  have hselects : Selects t (Input.portRoleSelection : Input n) := ⟨ht.selecting, hreselect⟩
  rw [portRoleSelection_of_selects hselects] at hsystem hsound hinfo ⊢
  -- what is selected is the system's own vector or that of a winner
  have hgm := (@setSelectedTree_gmPriorityVector n (updtRolesTree (clearReselectTree t))).trans
    updtRolesTree_gmPriorityVector
  have hroot : (setSelectedTree (updtRolesTree
      (clearReselectTree t))).gmPriorityVector.rootSystemIdentity ∈ K := by
    rw [hgm]
    split
    · exact hown
    case h_2 i _ => exact gmPath_root (K := (· ∈ K)) hones (hknown i)
  refine ⟨hsound, ?_, fun i => ⟨fun _ => ?_, fun _ => ?_, fun hreceive => ?_, fun m hm => ?_⟩, hroot,
    fun i hslave => ?_⟩
  · exact updtRolesTree_portRoleSelectionState.trans ht.selecting
  · rw [(hinfo i).portPriority]
    exact hknown i
  · rw [setSelectedTree_masterPriority]
    exact hroot
  · have hmessage : ((updtRolesTree (clearReselectTree t)).ports i).messagePriority = _ :=
      updtRolesTree_messagePriority
    show ((updtRolesTree (clearReselectTree t)).ports i).messagePriority.rootSystemIdentity ∈ K
    rw [hmessage]
    exact (ht.ports i).messagePriority ((hinfo i).state.symm.trans hreceive)
  · exact (ht.ports i).frame m ((hinfo i).rcvdAnnouncePtr.symm.trans hm)
  · obtain ⟨-, hwinner⟩ := updtRolesTree_slave_iff.mp hslave
    have hbetter := (candidate_iff ht.sound.clearReselectTree).mp
      (winner_candidate ht.sound.clearReselectTree hwinner).1
    rw [hgm, hwinner, hsystem]
    exact ⟨by rw [Gptpm.ownRoot, hsystem]; exact hbetter.1, hbetter.2⟩

/-! ### What one system knows -/

/-- The root of a system with the address `mac`. -/
def configuredRoot (mac : Vector UInt8 6) (config : SystemConfig) : SystemIdentity :=
  (systemPriorityOf mac config).rootSystemIdentity

/-- What holds of a system between two calls: it knows roots in `K` only. -/
structure Informed (mac : Vector UInt8 6) (configs : Set SystemConfig) (K : Set SystemIdentity)
    (s : GptpModule n) : Prop where
  node : NodeSound (· ∈ K) s.system.gptp
  known : Reselecting s.system.gptp → AllKnown K s.system.gptp
  config : s.system.gptp.systemConfig ∈ configs
  own : ∃ config ∈ configs, s.system.gptp.ownRoot = configuredRoot mac config
  sent : ∀ p m, .announce p m ∈ s.sent → rootOf m ∈ K
  currentSm : s.currentSm = false

/-- The roots in `K` are those that the system itself can have, and others. -/
structure Suffices (mac : Vector UInt8 6) (configs : Set SystemConfig) (K : Set SystemIdentity) :
    Prop where
  ones : onesRoot ∈ K
  own : ∀ config ∈ configs, configuredRoot mac config ∈ K

/-- What initialisation needs of the variables that it leaves alone. -/
structure Restartable (K : Set SystemIdentity) (t : Gptpm n) : Prop where
  master : ∀ i, (t.ports i).updtInfo → (t.ports i).masterPriority.rootSystemIdentity ∈ K
  frame : ∀ i m, (t.ports i).rcvdAnnouncePtr = some m → rootOf m ∈ K
  readable : ∀ i, (t.ports i).rcvdMsg → (t.ports i).rcvdAnnouncePtr.isSome
  known : Reselecting t → AllKnown K t

theorem Informed.restartable {configs : Set SystemConfig} (hs : Informed mac configs K s) :
    Restartable K s.system.gptp where
  master i := (hs.node.ports i).masterPriority
  frame i := (hs.node.ports i).frame
  readable i hmsg := (hs.node.sound.ports i).readable (Or.inl hmsg)
  known := hs.known

/-- The state in which the machine of an instance that is initialised comes to its second turn. -/
def afterFirstTurn (mac : Vector UInt8 6) (t : Gptpm n) : Gptpm n :=
  { updtRoleDisabledTree (gptpSwReset mac t) with portRoleSelectionState := .roleSelection }

/-- Initialisation is a selection in that state. -/
theorem portRoleSelection_reset :
    portRoleSelection (gptpSwReset mac t) = portRoleSelection (afterFirstTurn mac t) := by
  have hagain : portRoleSelection (gptpSwReset mac t) =
      portRoleSelectionTurn (afterFirstTurn mac t) := rfl
  rw [hagain, portRoleSelection]
  by_cases hreselect : Reselecting (afterFirstTurn mac t)
  · have hturn : portRoleSelectionTurn (afterFirstTurn mac t) =
        setSelectedTree (updtRolesTree (clearReselectTree (afterFirstTurn mac t))) :=
      if_pos hreselect
    have hstate : (afterFirstTurn mac t).portRoleSelectionState = (setSelectedTree
        (updtRolesTree (clearReselectTree (afterFirstTurn mac t)))).portRoleSelectionState :=
      (@updtRolesTree_portRoleSelectionState n (clearReselectTree (afterFirstTurn mac t))).symm
    rw [hturn]
    exact (if_pos hstate).symm
  · have hturn : portRoleSelectionTurn (afterFirstTurn mac t) = afterFirstTurn mac t :=
      if_neg hreselect
    rw [hturn]
    exact (if_pos rfl).symm

/-- **Initialisation forgets the grandmaster**, and selects another one only among vectors with roots
that are known. -/
theorem gptpSwInit_select (hK : Suffices mac configs K) (ht : Restartable K t)
    (hconfig : t.systemConfig ∈ configs) :
    NodeSound (· ∈ K) (portRoleSelection (gptpSwReset mac t)) ∧
      (Reselecting (portRoleSelection (gptpSwReset mac t)) →
        AllKnown K (portRoleSelection (gptpSwReset mac t))) := by
  have hfirst : NodeSound (· ∈ K) (afterFirstTurn mac t) := by
    refine ⟨⟨rfl, fun i => ⟨fun _ hstate => absurd rfl hstate, ?_⟩⟩, rfl, fun i => ?_, hK.ones,
      fun i hslave => by cases hslave⟩
    · rintro (hmsg | hstate)
      · exact ht.readable i hmsg
      · cases hstate
    · exact ⟨fun hstate => absurd rfl hstate, ht.master i,
        fun hstate => PortAnnounceInformationState.noConfusion hstate, ht.frame i⟩
  have hknown : Reselecting (afterFirstTurn mac t) → AllKnown K (afterFirstTurn mac t) := ht.known
  rw [portRoleSelection_reset]
  refine ⟨hfirst.select hK.ones (hK.own _ hconfig) hknown, fun hreselecting i => ?_⟩
  rw [portRoleSelection_sameInfo.portPriority]
  by_cases hreselect : Reselecting (afterFirstTurn mac t)
  · exact hknown hreselect i
  · rw [portRoleSelection_of_not_reselecting hfirst.selecting hreselect] at hreselecting
    exact absurd hreselecting hreselect

/-! ### What the rest of a call leaves alone -/

/-- What a port knows, and its role, are the same. -/
structure SameKnowledge (pp pp' : Port) : Prop extends SameInfo pp pp' where
  selectedRole : pp'.selectedRole = pp.selectedRole
  masterPriority : pp'.masterPriority = pp.masterPriority
  messagePriority : pp'.messagePriority = pp.messagePriority
  updtInfo : pp'.updtInfo = pp.updtInfo

theorem SameKnowledge.knows {K : SystemIdentity → Prop} (h : SameKnowledge pp pp')
    (hpp : PortKnows K pp) : PortKnows K pp' where
  portPriority hstate := by
    rw [h.portPriority]
    exact hpp.portPriority (h.state ▸ hstate)
  masterPriority hupdt := by
    rw [h.masterPriority]
    exact hpp.masterPriority (h.updtInfo ▸ hupdt)
  messagePriority hstate := by
    rw [h.messagePriority]
    exact hpp.messagePriority (h.state ▸ hstate)
  frame m hm := hpp.frame m (h.rcvdAnnouncePtr ▸ hm)

theorem NodeSound.same {K : SystemIdentity → Prop} (ht : NodeSound K t)
    (hsystem : t'.systemPriority = t.systemPriority)
    (hselecting : t'.portRoleSelectionState = t.portRoleSelectionState)
    (hgm : t'.gmPriorityVector = t.gmPriorityVector)
    (hports : ∀ i, SameKnowledge (t.ports i) (t'.ports i)) : NodeSound K t' where
  sound := ⟨hsystem ▸ ht.sound.clockClass, fun i =>
    (ht.sound.ports i).of_sameInfo (hports i).toSameInfo⟩
  selecting := hselecting.trans ht.selecting
  ports i := (hports i).knows (ht.ports i)
  gmPriority := by
    rw [hgm]
    exact ht.gmPriority
  slave i hslave := by
    rw [hgm, Gptpm.ownRoot, hsystem]
    exact ht.slave i ((hports i).selectedRole.symm.trans hslave)

/-- The vector that is pointed to is the same where the path vectors are. -/
theorem gmPriorityVector_same (hpointer : t'.gmPriority = t.gmPriority)
    (hsystem : t'.systemPriority = t.systemPriority) (hlast : t'.lastGmPriority = t.lastGmPriority)
    (hpath : ∀ i, (t'.ports i).gmPathPriority = (t.ports i).gmPathPriority) :
    t'.gmPriorityVector = t.gmPriorityVector := by
  rw [Gptpm.gmPriorityVector, Gptpm.gmPriorityVector, hpointer]
  cases t.gmPriority with
  | systemPriority => exact hsystem
  | lastGmPriority => exact hlast
  | gmPathPriority i => exact hpath i

theorem SameButNewInfo.nodeSound {K : SystemIdentity → Prop} (h : SameButNewInfo t t')
    (ht : NodeSound K t) : NodeSound K t' := by
  obtain ⟨newInfo, rfl⟩ := h
  exact ht.same rfl rfl (gmPriorityVector_same rfl rfl rfl fun _ => rfl)
    fun _ => ⟨⟨rfl, rfl, rfl, rfl, rfl⟩, rfl, rfl, rfl, rfl⟩

/-- One port is written, but for what it knows. -/
theorem NodeSound.setSame {K : SystemIdentity → Prop} (ht : NodeSound K t)
    (hsame : SameKnowledge (t.ports p) pp)
    (hpath : pp.gmPathPriority = (t.ports p).gmPathPriority) : NodeSound K (t.setPort p pp) :=
  ht.setPort ((ht.sound.ports p).of_sameInfo hsame.toSameInfo) (hsame.knows (ht.ports p)) hpath
    hsame.selectedRole

/-! ### The tick -/

/-- What holds of a system in the middle of a tick. -/
structure Working (K : Set SystemIdentity) (s : GptpModule n) : Prop where
  node : NodeSound (· ∈ K) s.system.gptp
  sent : ∀ p m, .announce p m ∈ s.sent → rootOf m ∈ K

/-- An Announce message that is sent has the root that the system follows. -/
theorem transmitAnnounce_working {clock : Clock} (hs : Working K s)
    (h : s.transmitAnnounce host clock i = some s') : Working K s' := by
  have hsends := transmitAnnounce_sendsOnly h
  obtain ⟨tx, htx, rfl⟩ := Option.map_eq_some_iff.mp h
  refine ⟨hsends.gptp.nodeSound hs.node, fun p m hm => ?_⟩
  rcases List.mem_append.mp hm with hm | hm
  · exact hs.sent p m hm
  · obtain ⟨rfl, rfl⟩ := Transmission.announce.inj (List.mem_singleton.mp hm)
    rw [rootOf, (transmitAnnounce_announces htx).root 0]
    exact hs.node.gmPriority

theorem transmitTurn_working (hs : Working K s)
    (h : transmitTurn host env ticks s i = some s') : Working K s' := by
  have hsync : ∀ {s : GptpModule n}, Working K s →
      Working K (syncTurn host (env.syncClock i) ticks s i) := by
    intro s hs
    refine ⟨(@syncTurn_sendsOnly n host s i ticks (env.syncClock i)).gptp.nodeSound hs.node,
      fun p m hm => ?_⟩
    simp only [syncTurn] at hm
    split at hm
    · rcases List.mem_append.mp hm with hm | hm
      · exact hs.sent p m hm
      · cases List.mem_singleton.mp hm
    · exact hs.sent p m hm
  rw [transmitTurn] at h
  split at h
  · obtain ⟨u, hu, rfl⟩ := Option.map_eq_some_iff.mp h
    refine hsync ?_
    simp only [announceTurn] at hu
    split at hu
    · refine transmitAnnounce_working ?_ hu
      exact ⟨setPort_newInfo.nodeSound hs.node, hs.sent⟩
    · exact Option.some_inj.mp hu ▸ ⟨hs.node, hs.sent⟩
  · exact Option.some_inj.mp h ▸ hs

theorem takeVerdict_nodeSound {K : SystemIdentity → Prop} {verdict : DelayVerdict}
    (ht : NodeSound K s.system.gptp) : NodeSound K (s.takeVerdict i verdict).system.gptp :=
  ht.setSame ⟨⟨rfl, rfl, rfl, rfl, rfl⟩, rfl, rfl, rfl, rfl⟩ rfl

theorem machineTurn_working (hones : onesRoot ∈ K) (hs : Working K s)
    (h : machineTurn env s i = some s') : Working K s' := by
  obtain ⟨t, ht, rfl⟩ := Option.map_eq_some_iff.mp h
  exact ⟨(takeVerdict_nodeSound hs.node).machine hones ht, hs.sent⟩

/-- Where the machine of every port has run, all vectors are known. -/
theorem machineTurns_allKnown (hs : NodeSound (· ∈ K) s'.system.gptp)
    (h : (List.finRange n).foldlM (machineTurn env) s = some s') :
    AllKnown K s'.system.gptp := by
  intro i
  refine (hs.ports i).portPriority fun hbegin => ?_
  have hrests := (machineTurns_ran (List.nodup_finRange n) h).ran i (List.mem_finRange i)
  have hnext := nextState_of_rests hrests
  rw [nextState_begin hbegin] at hnext
  cases hnext

theorem Informed.own_mem (hK : Suffices mac configs K) (hs : Informed mac configs K s) :
    s.system.gptp.ownRoot ∈ K := by
  obtain ⟨config, hconfig, hown⟩ := hs.own
  rw [hown]
  exact hK.own config hconfig

theorem selectRoles_nodeSound (hK : Suffices mac configs K) (hs : Informed mac configs K s) :
    NodeSound (· ∈ K) (selectRoles s.system.gptp) := by
  rw [selectRoles]
  split
  · exact hs.node.select hK.ones (hs.own_mem hK) hs.known
  · exact hs.node

theorem updtRolesTree_systemConfig : (updtRolesTree t).systemConfig = t.systemConfig := by
  refine updateGmPriority_kept (f := fun u => u.systemConfig) (fun u i => ?_) (computePaths t)
  rw [considerPort]
  split_ifs <;> rfl

theorem portRoleSelectionTurn_systemConfig :
    (portRoleSelectionTurn t).systemConfig = t.systemConfig := by
  rw [portRoleSelectionTurn]
  split
  · rfl
  · split
    · exact @updtRolesTree_systemConfig n (clearReselectTree t)
    · rfl

theorem portRoleSelection_systemConfig : (portRoleSelection t).systemConfig = t.systemConfig := by
  rw [portRoleSelection]
  split
  · exact portRoleSelectionTurn_systemConfig
  · exact portRoleSelectionTurn_systemConfig.trans portRoleSelectionTurn_systemConfig

/-- The configuration and the system's own vector are no variables of a selection. -/
theorem selectRoles_system : (selectRoles t).systemConfig = t.systemConfig ∧
    (selectRoles t).systemPriority = t.systemPriority := by
  rw [selectRoles]
  split
  · exact ⟨portRoleSelection_systemConfig, portRoleSelection_systemPriority⟩
  · exact ⟨rfl, rfl⟩

/-- **A tick keeps a system informed.** -/
theorem vtssGptpTick_informed (hK : Suffices mac configs K) (hs : Informed mac configs K s)
    (h : vtssGptpTick host env s = some s') : Informed mac configs K s' := by
  rw [vtssGptpTick_eq hs.currentSm, moreWork, Bool.not_true, if_neg Bool.false_ne_true] at h
  split at h
  · obtain ⟨u, hu, h⟩ := Option.bind_eq_some_iff.mp h
    obtain ⟨v, hv, rfl⟩ := Option.map_eq_some_iff.mp h
    have hselected : NodeSound (· ∈ K) (selectRoles s.system.gptp) := selectRoles_nodeSound hK hs
    have hworking : Working K u := by
      refine Runs.run_invariant transmitTurn_working ?_ hu
      exact ⟨hselected, hs.sent⟩
    have hran : Working K v := Runs.run_invariant (machineTurn_working hK.ones) hworking hv
    have hknown : AllKnown K v.system.gptp := machineTurns_allKnown hran.node hv
    have hsends := (transmitTurns_sendsOnly hu).gptp
    obtain ⟨newInfo, hnewInfo⟩ := hsends
    have hgptp := (machineTurns_ran (List.nodup_finRange n) hv).gptp
    obtain ⟨hconfig, hsystem⟩ := @selectRoles_system n s.system.gptp
    -- neither sending nor the machines write what the system is
    have hconfig' : v.system.gptp.systemConfig = s.system.gptp.systemConfig := by
      rw [hgptp, hnewInfo]
      exact hconfig
    have hsystem' : v.system.gptp.systemPriority = s.system.gptp.systemPriority := by
      rw [hgptp, hnewInfo]
      exact hsystem
    refine ⟨hran.node.same rfl rfl (gmPriorityVector_same rfl rfl rfl fun _ => rfl)
      fun _ => ⟨⟨rfl, rfl, rfl, rfl, rfl⟩, rfl, rfl, rfl, rfl⟩,
      fun _ => hknown, ?_, ?_, hran.sent, rfl⟩
    · show v.system.gptp.systemConfig ∈ configs
      rw [hconfig']
      exact hs.config
    · show ∃ config ∈ configs, v.system.gptp.systemPriority.rootSystemIdentity = _
      rw [hsystem']
      exact hs.own
  · obtain rfl := Option.some_inj.mp h
    exact ⟨hs.node, hs.known, hs.config, hs.own, hs.sent, rfl⟩

/-! ### The other calls -/

/-- **Initialisation makes a system informed.** -/
theorem swInit_informed (hK : Suffices mac configs K) {rxPhyMacDelay : PtpTime}
    (hs : Restartable K s.system.gptp) (hconfig : s.system.gptp.systemConfig ∈ configs)
    (hsent : ∀ p m, .announce p m ∈ s.sent → rootOf m ∈ K) :
    Informed mac configs K (s.swInit mac rxPhyMacDelay) := by
  obtain ⟨hnode, hknown⟩ := gptpSwInit_select hK hs hconfig
  refine ⟨hnode.same rfl rfl (gmPriorityVector_same rfl rfl rfl fun _ => rfl)
    fun _ => ⟨⟨rfl, rfl, rfl, rfl, rfl⟩, rfl, rfl, rfl, rfl⟩, hknown, ?_, ?_, hsent, rfl⟩
  · show (portRoleSelection (gptpSwReset mac s.system.gptp)).systemConfig ∈ configs
    rw [portRoleSelection_systemConfig]
    exact hconfig
  · refine ⟨s.system.gptp.systemConfig, hconfig, ?_⟩
    show (portRoleSelection (gptpSwReset mac
      s.system.gptp)).systemPriority.rootSystemIdentity = _
    rw [portRoleSelection_systemPriority]
    rfl

theorem gptpInit_informed (hK : Suffices platform.mac configs K)
    (hs : Informed platform.mac configs K s) :
    Informed platform.mac configs K (gptpInit platform s) := by
  rw [gptpInit]
  split
  · exact hs
  · exact swInit_informed hK hs.restartable hs.config hs.sent

/-- One port is written, but for what it knows. -/
theorem Informed.setSame (hs : Informed mac configs K s)
    (hgptp : s'.system.gptp = s.system.gptp.setPort p pp)
    (hsame : SameKnowledge (s.system.gptp.ports p) pp)
    (hpath : pp.gmPathPriority = (s.system.gptp.ports p).gmPathPriority)
    (hreselect : pp.reselect = (s.system.gptp.ports p).reselect)
    (hsent : ∀ p m, .announce p m ∈ s'.sent → .announce p m ∈ s.sent)
    (hsm : s'.currentSm = s.currentSm) : Informed mac configs K s' := by
  have hports : ∀ i, (s'.system.gptp.ports i).portPriority =
      (s.system.gptp.ports i).portPriority ∧
      (s'.system.gptp.ports i).reselect = (s.system.gptp.ports i).reselect := by
    intro i
    rw [hgptp]
    by_cases hi : i = p
    · rw [hi, Gptpm.setPort_ports_self]
      exact ⟨hsame.portPriority, hreselect⟩
    · rw [Gptpm.setPort_ports_of_ne hi]
      exact ⟨rfl, rfl⟩
  refine ⟨?_, ?_, ?_, ?_, fun p m hm => hs.sent p m (hsent p m hm), hsm.trans hs.currentSm⟩
  · rw [hgptp]
    exact hs.node.setSame hsame hpath
  · rintro ⟨i, hi⟩ j
    rw [(hports j).1]
    rw [(hports i).2] at hi
    exact hs.known ⟨i, hi⟩ j
  · rw [hgptp]
    exact hs.config
  · rw [hgptp]
    exact hs.own

/-- An Announce message comes in, with a root that is known. -/
theorem processRxAnnounce_informed {bigEndian : Bool} {m : Mem} (hs : Informed mac configs K s)
    (hroot : rootOf m ∈ K)
    (h : processRxAnnounce bigEndian s.system.gptp p m = some t') :
    Informed mac configs K (s.withGptp t') := by
  have ht := hs.node
  have hsound : Sound t' :=
    @Sound.step n bigEndian s.system.gptp t' (.processRxAnnounce p m) ht.sound h
  obtain ⟨rcvdMsg, pathTrace, pathTraceLength, rfl⟩ := processRxAnnounce_eq_with h
  have hport := ht.ports p
  have hkeep : NodeSound (· ∈ K) (s.system.gptp.setPort p
      { s.system.gptp.ports p with rcvdAnnouncePtr := some m, rcvdMsg := rcvdMsg }) :=
    ht.setPort ⟨(ht.sound.ports p).vacant, fun _ => rfl⟩
      ⟨hport.portPriority, hport.masterPriority, hport.messagePriority,
        fun m' hm' => Option.some_inj.mp hm' ▸ hroot⟩ rfl rfl
  have hports : ∀ i, ((s.system.gptp.setPort p { s.system.gptp.ports p with
      rcvdAnnouncePtr := some m, rcvdMsg := rcvdMsg }).ports i).portPriority =
        (s.system.gptp.ports i).portPriority ∧
      ((s.system.gptp.setPort p { s.system.gptp.ports p with
        rcvdAnnouncePtr := some m, rcvdMsg := rcvdMsg }).ports i).reselect =
        (s.system.gptp.ports i).reselect := by
    intro i
    by_cases hi : i = p
    · rw [hi, Gptpm.setPort_ports_self]
      exact ⟨rfl, rfl⟩
    · rw [Gptpm.setPort_ports_of_ne hi]
      exact ⟨rfl, rfl⟩
  refine ⟨⟨hsound, hkeep.selecting, hkeep.ports, hkeep.gmPriority, hkeep.slave⟩, ?_, hs.config,
    hs.own, hs.sent, hs.currentSm⟩
  rintro ⟨i, hi⟩ j
  show ((s.system.gptp.setPort p _).ports j).portPriority.rootSystemIdentity ∈ K
  rw [(hports j).1]
  exact hs.known ⟨i, (hports i).2 ▸ hi⟩ j

/-- The system is given no other configurations than these. -/
def Admitted (configs : Set SystemConfig) : ModuleInput n → Prop
  | .vtssGptpSetConfig config => config ∈ configs
  | _ => True

/-- The Announce message that an input brings in, and its port. -/
def ModuleInput.received : ModuleInput n → Option (Fin n × Mem)
  | .processRxAnnounce p rxBuffer => some (p, rxBuffer)
  | _ => none

/-- **No root comes from nowhere**: a system that receives frames with known roots knows no others. -/
theorem moduleStep_informed (hK : Suffices platform.mac configs K)
    (hs : Informed platform.mac configs K s) (hadmitted : Admitted configs input)
    (hreceived : ∀ p m, input.received = some (p, m) → rootOf m ∈ K)
    (h : moduleStep platform s input = some s') : Informed platform.mac configs K s' := by
  cases input with
  | vtssGptpInit =>
    obtain rfl := Option.some_inj.mp h
    exact gptpInit_informed hK hs
  | vtssGptpDeinit =>
    obtain rfl := Option.some_inj.mp h
    exact swInit_informed hK hs.restartable hs.config hs.sent
  | vtssGptpTick env => exact vtssGptpTick_informed hK hs h
  | vtssGptpSetConfig config =>
    obtain rfl := Option.some_inj.mp h
    have hinit := gptpInit_informed hK hs
    exact ⟨hinit.node.same rfl rfl (gmPriorityVector_same rfl rfl rfl fun _ => rfl)
      fun _ => ⟨⟨rfl, rfl, rfl, rfl, rfl⟩, rfl, rfl, rfl, rfl⟩, hinit.known, hadmitted, hinit.own,
      hinit.sent, hinit.currentSm⟩
  | vtssGptpSetPortconfig env p config =>
    obtain ⟨u, hu, rfl⟩ := Option.map_eq_some_iff.mp h
    have hinit := gptpInit_informed hK hs
    rw [finishGptpWork, hinit.currentSm, if_neg Bool.false_ne_true] at hu
    obtain rfl := Option.some_inj.mp hu
    have hgptp : ((gptpInit platform s).setPortconfig p config).system.gptp =
        (gptpInit platform s).system.gptp.setPort p
          { (gptpInit platform s).system.gptp.ports p with portConfig := config } := rfl
    exact hinit.setSame hgptp ⟨⟨rfl, rfl, rfl, rfl, rfl⟩, rfl, rfl, rfl, rfl⟩ rfl rfl
      (fun _ _ hm => hm) rfl
  | processRxAnnounce p m =>
    obtain ⟨t, ht, rfl⟩ := Option.map_eq_some_iff.mp h
    exact processRxAnnounce_informed hs (hreceived p m rfl) ht
  | processRxSync p clock locals m =>
    obtain rfl := Option.some_inj.mp h
    have hgptp : (processRxSync platform.host clock locals s.system p m).gptp =
        s.system.gptp.setPort p { s.system.gptp.ports p with syncTimeoutCounter := 0 } :=
      processRxSync_gptp
    exact hs.setSame hgptp ⟨⟨rfl, rfl, rfl, rfl, rfl⟩, rfl, rfl, rfl, rfl⟩ rfl rfl
      (fun _ _ hm => hm) rfl
  | processRxFup p clock locals m =>
    obtain ⟨r, hr, rfl⟩ := Option.map_eq_some_iff.mp h
    have hgptp : r.1.gptp = s.system.gptp.setPort p (s.system.gptp.ports p) := by
      rw [@processRxFup_gptp n _ _ _ _ _ _ _ r.1 r.2 hr, Gptpm.setPort, Function.update_eq_self]
    refine hs.setSame hgptp ⟨⟨rfl, rfl, rfl, rfl, rfl⟩, rfl, rfl, rfl, rfl⟩ rfl rfl
      (fun q m' hm => ?_) rfl
    -- only Sync messages are relayed
    rcases List.mem_append.mp hm with hm | hm
    · exact hm
    · obtain ⟨frames, -, hframes⟩ := List.mem_map.mp hm
      cases hframes
  | delayReception p verdict =>
    obtain rfl := Option.some_inj.mp h
    have hgptp : (s.takeVerdict p verdict).system.gptp =
        s.system.gptp.setPort p ((s.system.gptp.ports p).withVerdict verdict) := rfl
    exact hs.setSame hgptp ⟨⟨rfl, rfl, rfl, rfl, rfl⟩, rfl, rfl, rfl, rfl⟩ rfl rfl
      (fun _ _ hm => hm) rfl

/-- What a system with a slave port follows is no root of its own, and a smaller one. -/
theorem Informed.slave (hs : Informed mac configs K s)
    (h : (s.system.gptp.ports p).selectedRole = .slave) :
    s.system.gptp.gmPriorityVector.rootSystemIdentity ∈ K ∧
      s.system.gptp.gmPriorityVector.rootSystemIdentity ≠ onesRoot ∧
      s.system.gptp.gmPriorityVector.rootSystemIdentity.clockIdentity ≠ clockIdentityOf mac ∧
      s.system.gptp.gmPriorityVector.rootSystemIdentity.value < s.system.gptp.ownRoot.value := by
  obtain ⟨hforeign, hbetter⟩ := hs.node.slave p h
  obtain ⟨config, -, hown⟩ := hs.own
  refine ⟨hs.node.gmPriority, fun hones => ?_, ?_, ?_⟩
  · -- ones are worse than the system
    have hworse := hs.node.sound.lt_ones
      (congrArg (·.priority1) hones) (congrArg (·.clockClass) hones)
    exact lt_asymm hbetter hworse
  · rw [hown] at hforeign
    exact hforeign
  · refine lt_of_le_of_ne (root_value_le_of_value_lt hbetter) fun heq => ?_
    exact hforeign (congrArg (·.clockIdentity) (SystemIdentity.value_injective heq))

end System

/-! ### The network -/

section Network

variable {ι : Type*} {n : ι → ℕ}

/-- What happens in the network: a call of one of the systems, or an Announce message comes in that
another one has sent. -/
inductive NetworkInput (n : ι → ℕ)
  | call (b : ι) (input : ModuleInput (n b))
  | deliver (c : Σ a, Fin (n a)) (k : ℕ) (d : Σ b, Fin (n b))

variable {platform : ι → Platform} {configs : ι → Set SystemConfig}
  {joined : (Σ a, Fin (n a)) → (Σ a, Fin (n a)) → Prop} {s s' : ∀ a, GptpModule (n a)}
  {input : NetworkInput n}

/-- The systems in static memory, each initialised with an address and a configuration. -/
def networkInit (platform : ι → Platform) (systemConfig : ι → SystemConfig)
    (portConfig : ∀ a, Fin (n a) → PortConfig) (ptpTxBuf : ι → Mem) (a : ι) : GptpModule (n a) :=
  (GptpModule.staticMemory (systemConfig a) (portConfig a) (ptpTxBuf a)).swInit (platform a).mac
    (platform a).rxPhyMacDelay

/-- What system `b` is configured with, at initialisation or in a run. -/
def Configured (systemConfig : ι → SystemConfig) (inputs : List (NetworkInput n)) (b : ι) :
    Set SystemConfig :=
  {config | config = systemConfig b ∨ .call b (.vtssGptpSetConfig config) ∈ inputs}

/-- The roots of a system, and the ones. -/
def ownRoots (platform : ι → Platform) (configs : ι → Set SystemConfig) (a : ι) :
    Set SystemIdentity :=
  {r | r = onesRoot ∨ ∃ config ∈ configs a, r = configuredRoot (platform a).mac config}

theorem suffices_of_subset {K : Set SystemIdentity} {a : ι} (h : ownRoots platform configs a ⊆ K) :
    Suffices (platform a).mac (configs a) K where
  ones := h (Or.inl rfl)
  own config hconfig := h (Or.inr ⟨config, hconfig, rfl⟩)

/-- The systems and the links as a network of nodes. -/
def announceNetwork (platform : ι → Platform) (configs : ι → Set SystemConfig)
    (joined : (Σ a, Fin (n a)) → (Σ a, Fin (n a)) → Prop) :
    Networks.Network ι Mem (fun a => GptpModule (n a))
      (fun a => {input : ModuleInput (n a) // Admitted (configs a) input}) fun a => Fin (n a) where
  step a s input := moduleStep (platform a) s input.1
  takes _ input := input.1.received
  sent _ s p := {m | .announce p m ∈ s.sent}
  joined := joined

theorem networkInit_informed {systemConfig : ι → SystemConfig}
    {portConfig : ∀ a, Fin (n a) → PortConfig} {ptpTxBuf : ι → Mem}
    (hconfig : ∀ a, systemConfig a ∈ configs a) (a : ι) :
    Informed (platform a).mac (configs a)
      ((announceNetwork platform configs joined).origins (ownRoots platform configs) a)
      (networkInit platform systemConfig portConfig ptpTxBuf a) := by
  refine swInit_informed (suffices_of_subset (Networks.Network.own_subset_origins _ _ a))
    ⟨fun i h => ?_, fun i m h => ?_, fun i h => ?_, fun h => ?_⟩ (hconfig a) fun p m h => ?_
  · cases h
  · cases h
  · cases h
  · obtain ⟨i, hi⟩ := h
    cases hi
  · cases h

variable [DecidableEq ι]

/-- A step of the network.  What is delivered was sent on a port that is joined with this one. -/
def networkStep (platform : ι → Platform) (joined : (Σ a, Fin (n a)) → (Σ a, Fin (n a)) → Prop)
    [DecidableRel joined] (s : ∀ a, GptpModule (n a)) :
    NetworkInput n → Option (∀ a, GptpModule (n a))
  | .call b input =>
    if input.received.isSome then none
    else (moduleStep (platform b) (s b) input).map (Function.update s b)
  | .deliver c k d =>
    ((s c.1).sent[k]?).bind fun
      | .announce p frame =>
        if p = c.2 ∧ joined c d then
          (moduleStep (platform d.1) (s d.1) (.processRxAnnounce d.2 frame)).map
            (Function.update s d.1)
        else none
      | .sync _ _ => none

/-- The configurations that an input gives to the systems are among these. -/
def NetworkInput.Admitted (configs : ι → Set SystemConfig) : NetworkInput n → Prop
  | .call b input => Gptp.Admitted (configs b) input
  | .deliver _ _ _ => True

/-- A step of the systems is one of the network of nodes. -/
theorem networkStep_step [DecidableRel joined] (hadmitted : input.Admitted configs)
    (h : networkStep platform joined s input = some s') :
    Networks.Step (announceNetwork platform configs joined) s s' := by
  cases input with
  | call b input =>
    rw [networkStep] at h
    split at h
    · cases h
    case isFalse hreceived =>
      obtain ⟨t, ht, rfl⟩ := Option.map_eq_some_iff.mp h
      refine @Networks.Step.node _ _ _ _ _ _ (announceNetwork platform configs joined) s b
        ⟨input, hadmitted⟩ t (fun q m hm => ?_) ht
      have hm : input.received = some (q, m) := hm
      exact absurd (hm ▸ rfl) hreceived
  | deliver c k d =>
    obtain ⟨frame, hframe, h⟩ := Option.bind_eq_some_iff.mp h
    cases frame with
    | announce p m =>
      dsimp only at h
      split at h
      case isTrue hjoined =>
        obtain ⟨t, ht, rfl⟩ := Option.map_eq_some_iff.mp h
        refine @Networks.Step.node _ _ _ _ _ _ (announceNetwork platform configs joined) s d.1
          ⟨.processRxAnnounce d.2 m, trivial⟩ t (fun q m' hm => ?_) ht
        obtain ⟨rfl, rfl⟩ := Prod.mk.inj (Option.some_inj.mp hm)
        refine ⟨c, hjoined.2, ?_⟩
        show Transmission.announce c.2 m ∈ (s c.1).sent
        rw [← hjoined.1]
        exact List.mem_of_getElem? hframe
      case isFalse => cases h
    | sync p frames => cases h

/-- Every system knows the roots only of systems from which there is a way to it. -/
theorem steps_informed (h : Networks.Steps (announceNetwork platform configs joined) s s')
    (hs : ∀ a, Informed (platform a).mac (configs a)
      ((announceNetwork platform configs joined).origins (ownRoots platform configs) a) (s a)) :
    ∀ a, Informed (platform a).mac (configs a)
      ((announceNetwork platform configs joined).origins (ownRoots platform configs) a) (s' a) := by
  have hsent : ∀ a (K : Set SystemIdentity) t p, ownRoots platform configs a ⊆ K →
      Informed (platform a).mac (configs a) K t →
      ∀ m ∈ (announceNetwork platform configs joined).sent a t p, rootOf m ∈ K :=
    fun a K t p _ ht m hm => ht.sent p m hm
  refine Networks.Steps.origins (I := fun a K t => Informed (platform a).mac (configs a) K t)
    hsent ?_ hs h
  intro a K t input t' hown ht htakes hstep
  exact moduleStep_informed (suffices_of_subset hown) ht input.2 htakes hstep

theorem networkRun_steps [DecidableRel joined] {inputs : List (NetworkInput n)}
    (hadmitted : ∀ input ∈ inputs, input.Admitted configs)
    (h : Runs.run (networkStep platform joined) s inputs = some s') :
    Networks.Steps (announceNetwork platform configs joined) s s' :=
  Runs.run_invariant_of_forall (I := Networks.Steps (announceNetwork platform configs joined) s)
    (fun hinput hsteps hstep => hsteps.tail (networkStep_step hinput hstep)) hadmitted
    Relation.ReflTransGen.refl h

/-- **A system with a slave port follows another system** from which there is a way to it, and whose
root was smaller than its own. -/
theorem slaves_follow_better [DecidableRel joined] (systemConfig : ι → SystemConfig)
    (portConfig : ∀ a, Fin (n a) → PortConfig) (ptpTxBuf : ι → Mem)
    (inputs : List (NetworkInput n))
    (hrun : Runs.run (networkStep platform joined)
      (networkInit platform systemConfig portConfig ptpTxBuf) inputs = some s')
    (a : ι) (p : Fin (n a)) (hslave : ((s' a).system.gptp.ports p).selectedRole = .slave) :
    ∃ b, b ≠ a ∧ Networks.Reaches joined b a ∧ ∃ config ∈ Configured systemConfig inputs b,
      (s' a).system.gptp.gmPriorityVector.rootSystemIdentity =
          configuredRoot (platform b).mac config ∧
        (configuredRoot (platform b).mac config).value < (s' a).system.gptp.ownRoot.value := by
  have hadmitted : ∀ input ∈ inputs, input.Admitted (Configured systemConfig inputs) := by
    intro input hinput
    rcases input with ⟨b, call⟩ | _
    · cases call
      case vtssGptpSetConfig config => exact Or.inr hinput
      all_goals trivial
    · trivial
  have hinformed := steps_informed (networkRun_steps hadmitted hrun)
    (networkInit_informed fun _ => Or.inl rfl) a
  obtain ⟨⟨b, hreaches, hroot⟩, hones, hforeign, hbetter⟩ := hinformed.slave hslave
  rcases hroot with hroot | ⟨config, hconfig, hroot⟩
  · exact absurd hroot hones
  refine ⟨b, ?_, hreaches, config, hconfig, hroot, hroot ▸ hbetter⟩
  -- its own clock is not the one that it follows
  rintro rfl
  exact hforeign (congrArg (·.clockIdentity) hroot)

end Network

/-! ### An example -/

inductive Place
  | left
  | middle
  | right
  deriving DecidableEq

/-- Three systems with two ports each, in a line. -/
def inLine (c d : Σ _ : Place, Fin 2) : Prop :=
  (c, d) ∈ [((⟨.right, port0⟩ : Σ _ : Place, Fin 2), (⟨.middle, port1⟩ : Σ _ : Place, Fin 2)),
    (⟨.middle, port1⟩, ⟨.right, port0⟩), (⟨.middle, port0⟩, ⟨.left, port0⟩),
    (⟨.left, port0⟩, ⟨.middle, port0⟩)]

instance : DecidableRel inLine := fun _ _ => inferInstanceAs (Decidable (_ ∈ _))

def Place.octet : Place → UInt8
  | .left => 3
  | .middle => 2
  | .right => 1

/-- The address of the system on the right is the smallest one. -/
def placePlatform (place : Place) : Platform :=
  ⟨bigEndianHost, Vector.replicate 6 place.octet, ⟨0, 0, 1⟩⟩

def lineInit : Place → GptpModule 2 :=
  networkInit placePlatform (fun _ => ⟨248, 248⟩) (fun _ _ => ⟨3, 3⟩) fun _ _ => 0

def lineTick (place : Place) : NetworkInput fun _ : Place => 2 :=
  .call place (.vtssGptpTick ⟨fun _ => atBoot, fun _ => atBoot, fun _ => capableVerdict⟩)

/-- What the system on the right announces, the one in the middle passes on. -/
def announcedAlong : List (NetworkInput fun _ : Place => 2) :=
  [lineTick .right, lineTick .right, lineTick .right, lineTick .middle,
    .deliver ⟨.right, port0⟩ 0 ⟨.middle, port1⟩, lineTick .middle, lineTick .middle,
    lineTick .left, .deliver ⟨.middle, port0⟩ 2 ⟨.left, port0⟩, lineTick .left, lineTick .left]

/-- The system on the left follows another one. -/
theorem slaves_follow_better_inLine : ∃ s',
    Runs.run (networkStep placePlatform inLine) lineInit announcedAlong = some s' ∧
      ∃ b, b ≠ .left ∧ Networks.Reaches inLine b .left ∧
        ∃ config ∈ Configured (fun _ => ⟨248, 248⟩) announcedAlong b,
          (s' .left).system.gptp.gmPriorityVector.rootSystemIdentity =
              configuredRoot (placePlatform b).mac config ∧
            (configuredRoot (placePlatform b).mac config).value <
              (s' .left).system.gptp.ownRoot.value := by
  have hrun : (Runs.run (networkStep placePlatform inLine) lineInit announcedAlong).map
      (fun s => ((s .left).system.gptp.ports port0).selectedRole) = some .slave := by
    decide +kernel
  obtain ⟨s', hs', hslave⟩ := Option.map_eq_some_iff.mp hrun
  exact ⟨s', hs', slaves_follow_better _ _ _ announcedAlong hs' .left port0 hslave⟩

end Gptp
