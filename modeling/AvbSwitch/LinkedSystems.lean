/-
Two systems on one link.

Each of two instances has one port enabled, and these two ports are joined.  What an instance
announces on its port may come to the other one at any time, any number of times and in any
order, or not at all: the link keeps every frame that was sent (`Link.sent`), and a delivery
takes any of them.

The roots that occur, in frames and in vectors, are those of the two systems, and the ones of a
port without information (`Known`).  Of these a system can only follow a root that is smaller
than its own.

* `oneFollows_along` — the two ports are never both slaves, and a slave follows the system with
  the smaller root, if no selection is made before the machine of each port has run;
* `both_follow` — otherwise they can both be slaves: the vector of a port whose machine has not
  run is that of the static memory, and beats every root.
-/
import AvbSwitch.AnnounceEncoding
import AvbSwitch.TimeRelay

open Octets

namespace Gptp

/-! ### The link -/

/-- The two ends of the link. -/
inductive Side
  | left
  | right
  deriving DecidableEq, Repr

def Side.other : Side → Side
  | .left => .right
  | .right => .left

/-- Two instances, and what was sent to each of them. -/
structure Link (n : ℕ) where
  node : Side → Gptpm n
  tx : Side → AnnounceTx n
  /-- every frame sent to this side, delivered or not -/
  sent : Side → List Mem

/-- What happens on the link. -/
inductive LinkInput (n : ℕ)
  | transmitAnnounce (side : Side) (clock : Clock)
  | processRxAnnounce (side : Side) (k : ℕ)
  | portAnnounceInformation (side : Side) (p : Fin n)
  | portRoleSelection (side : Side)
  | setAnnounceTimeoutCounter (side : Side) (p : Fin n) (ticks : UInt32)
  | setSyncTimeoutCounter (side : Side) (p : Fin n) (ticks : UInt32)

variable {n : ℕ}

/-- A step of one of the instances. -/
def Link.stepNode (host : Side → Host) (s : Link n) (side : Side) (input : Input n) :
    Option (Link n) :=
  (step (host side).bigEndian (s.node side) input).map fun t =>
    { s with node := Function.update s.node side t }

/-- A frame is sent from one side to the other. -/
def Link.send (s : Link n) (side : Side) (tx : AnnounceTx n) : Link n :=
  { s with
    tx := Function.update s.tx side tx
    sent := Function.update s.sent side.other (tx.ptpTxBuf :: s.sent side.other) }

/-- The link joins port `port left` with port `port right`. -/
def linkStep (host : Side → Host) (port : Side → Fin n) (s : Link n) :
    LinkInput n → Option (Link n)
  | .transmitAnnounce side clock =>
    (transmitAnnounce (host side) clock (s.node side) (s.tx side) (port side)).map (s.send side)
  | .processRxAnnounce side k =>
    ((s.sent side)[k]?).bind fun m => s.stepNode host side (.processRxAnnounce (port side) m)
  | .portAnnounceInformation side p => s.stepNode host side (.portAnnounceInformation p)
  | .portRoleSelection side => s.stepNode host side .portRoleSelection
  | .setAnnounceTimeoutCounter side p ticks =>
    s.stepNode host side (.setAnnounceTimeoutCounter p ticks)
  | .setSyncTimeoutCounter side p ticks => s.stepNode host side (.setSyncTimeoutCounter p ticks)

/-- All ports but one are disabled. -/
def Gptpm.onlyPort (t : Gptpm n) (p : Fin n) : Gptpm n :=
  { t with ports := fun i => { t.ports i with portEnabled := decide (i = p) } }

/-- Two instances of the program, freshly initialised. -/
def Link.init (port : Side → Fin n) (mac : Side → Vector UInt8 6)
    (systemConfig : Side → SystemConfig) (portConfig : Side → Fin n → PortConfig)
    (ptpTxBuf : Side → Mem) : Link n where
  node side :=
    (gptpSwInit (mac side) (staticMemory (systemConfig side) (portConfig side))).onlyPort (port side)
  tx side := .swInit n (mac side) (ptpTxBuf side)
  sent _ := []

/-! ### Who follows whom -/

/-- The root identity of the system itself. -/
def Gptpm.ownRoot (t : Gptpm n) : SystemIdentity := t.systemPriority.rootSystemIdentity

/-- The smaller one of the two roots. -/
def Link.smallerRoot (s : Link n) : SystemIdentity :=
  if (s.node .left).ownRoot.value < (s.node .right).ownRoot.value then (s.node .left).ownRoot
  else (s.node .right).ownRoot

/-- The port of this side is a slave. -/
def Link.Follows (port : Side → Fin n) (s : Link n) (side : Side) : Prop :=
  ((s.node side).ports (port side)).selectedRole = .slave

/-- The two ports are not both slaves, and the root that a slave follows is the smaller one. -/
def OneFollows (port : Side → Fin n) (s : Link n) : Prop :=
  ¬(s.Follows port .left ∧ s.Follows port .right) ∧
    ∀ side, s.Follows port side →
      (s.node side).gmPriorityVector.rootSystemIdentity = s.smallerRoot

/-- A selection comes after the machine of each port has run. -/
def AfterFirstRuns (s : Link n) : LinkInput n → Prop
  | .portRoleSelection side => ∀ i, ((s.node side).ports i).portAnnounceInformationState ≠ .begin
  | _ => True

instance (s : Link n) : DecidablePred (AfterFirstRuns s)
  | .portRoleSelection side =>
    inferInstanceAs
      (Decidable (∀ i, ((s.node side).ports i).portAnnounceInformationState ≠ .begin))
  | .transmitAnnounce .. | .processRxAnnounce .. | .portAnnounceInformation ..
  | .setAnnounceTimeoutCounter .. | .setSyncTimeoutCounter .. => isTrue trivial

/-! ### Which roots occur -/

variable {K : SystemIdentity → Prop} {t t' : Gptpm n} {p i : Fin n} {pp pp' : Port} {m : Mem}
  {bigEndian : Bool} {gmPresent : Bool} {masterStepsRemoved : UInt16}
  {st : PortAnnounceInformationState}

/-- The root in an Announce frame. -/
def rootOf (m : Mem) : SystemIdentity := (extractAnnounce m 0).rootSystemIdentity

/-- The root of a port without information. -/
def onesRoot : SystemIdentity := (PriorityVector.memset 0xFF).rootSystemIdentity

/-- The vectors of a port whose machine has run have roots in `K`, as far as they may still be
used, and so has the frame that it has received. -/
structure PortKnows (K : SystemIdentity → Prop) (pp : Port) : Prop where
  portPriority : pp.portAnnounceInformationState ≠ .begin → K pp.portPriority.rootSystemIdentity
  masterPriority : pp.updtInfo → K pp.masterPriority.rootSystemIdentity
  messagePriority : pp.portAnnounceInformationState = .receive →
    K pp.messagePriority.rootSystemIdentity
  frame : ∀ m, pp.rcvdAnnouncePtr = some m → K (rootOf m)

/-- The entry actions only copy what the port knows. -/
theorem PortKnows.setState (hones : K onesRoot) (hpp : PortKnows K pp)
    (hnext : nextState gmPresent pp = some st)
    (hset : setState masterStepsRemoved p pp st = some pp') : PortKnows K pp' := by
  -- from the first state the next one is DISABLED
  have hbegin : st ≠ .disabled → pp.portAnnounceInformationState ≠ .begin := fun hne hbegin =>
    hne (Option.some_inj.mp (hnext.symm.trans (nextState_begin hbegin)))
  cases st <;> simp only [Gptp.setState, Option.some_inj, Option.map_eq_some_iff] at hset
  case begin | disabled =>
    subst hset
    exact ⟨fun _ => hones, hpp.masterPriority, fun h => PortAnnounceInformationState.noConfusion h,
      hpp.frame⟩
  case aged | repeatedMasterPort | inferiorMasterOrOtherPort | current =>
    subst hset
    exact ⟨fun _ => hpp.portPriority (hbegin PortAnnounceInformationState.noConfusion),
      hpp.masterPriority, fun h => PortAnnounceInformationState.noConfusion h, hpp.frame⟩
  case update =>
    subst hset
    have hupdt : pp.updtInfo := by
      rw [nextState] at hnext
      grind
    exact ⟨fun _ => hpp.masterPriority hupdt, fun h => Bool.noConfusion h,
      fun h => PortAnnounceInformationState.noConfusion h, hpp.frame⟩
  case superiorMasterPort =>
    obtain ⟨m, -, rfl⟩ := hset
    have hreceive : pp.portAnnounceInformationState = .receive := by
      rw [nextState] at hnext
      grind
    exact ⟨fun _ => hpp.messagePriority hreceive, hpp.masterPriority,
      fun h => PortAnnounceInformationState.noConfusion h, hpp.frame⟩
  case receive =>
    obtain ⟨m, hm, rfl⟩ := hset
    exact ⟨fun _ => hpp.portPriority (hbegin PortAnnounceInformationState.noConfusion),
      hpp.masterPriority, fun _ => hpp.frame m hm, hpp.frame⟩

/-! ### One instance -/

/-- What holds of an instance all along: it knows roots in `K` only, and if it has a slave port,
what it follows is another system and better than itself. -/
structure NodeSound (K : SystemIdentity → Prop) (t : Gptpm n) : Prop where
  sound : Sound t
  selecting : t.portRoleSelectionState = .roleSelection
  ports : ∀ i, PortKnows K (t.ports i)
  gmPriority : K t.gmPriorityVector.rootSystemIdentity
  slave : ∀ i, (t.ports i).selectedRole = .slave →
    t.gmPriorityVector.rootSystemIdentity.clockIdentity ≠ t.ownRoot.clockIdentity ∧
      t.gmPriorityVector.value < t.systemPriority.value

theorem NodeSound.setPort (ht : NodeSound K t) (hs : PortSound pp) (hpp : PortKnows K pp)
    (hpath : pp.gmPathPriority = (t.ports p).gmPathPriority)
    (hrole : pp.selectedRole = (t.ports p).selectedRole) : NodeSound K (t.setPort p pp) where
  sound := ht.sound.setPort hs
  selecting := ht.selecting
  ports i := by
    by_cases hi : i = p
    · rw [hi, Gptpm.setPort_ports_self]
      exact hpp
    · rw [Gptpm.setPort_ports_of_ne hi]
      exact ht.ports i
  gmPriority := by
    rw [Gptpm.setPort_gmPriorityVector hpath]
    exact ht.gmPriority
  slave i hslave := by
    rw [Gptpm.setPort_gmPriorityVector hpath]
    refine ht.slave i ?_
    by_cases hi : i = p
    · rw [hi, Gptpm.setPort_ports_self] at hslave
      rw [hi, ← hrole, hslave]
    · rwa [Gptpm.setPort_ports_of_ne hi] at hslave

/-- The machine leaves the role and the path vector to the role selection. -/
theorem setState_selection (h : setState masterStepsRemoved p pp st = some pp') :
    pp'.gmPathPriority = pp.gmPathPriority ∧ pp'.selectedRole = pp.selectedRole := by
  cases st <;> simp only [setState, Option.some_inj, Option.map_eq_some_iff] at h
  case superiorMasterPort | receive =>
    obtain ⟨m, -, rfl⟩ := h
    exact ⟨rfl, rfl⟩
  all_goals exact h ▸ ⟨rfl, rfl⟩

theorem NodeSound.machine (hones : K onesRoot) (ht : NodeSound K t)
    (h : portAnnounceInformation t p = some t') : NodeSound K t' := by
  obtain ⟨pp, ⟨hs, hpp, hsel⟩, rfl⟩ := portAnnounceInformation_invariant
    (I := fun q => PortSound q ∧ PortKnows K q ∧
      q.gmPathPriority = (t.ports p).gmPathPriority ∧ q.selectedRole = (t.ports p).selectedRole)
    (fun hq hnext hset =>
      ⟨hq.1.setState hnext hset, hq.2.1.setState hones hnext hset,
        (setState_selection hset).1.trans hq.2.2.1, (setState_selection hset).2.trans hq.2.2.2⟩)
    ⟨ht.sound.ports p, ht.ports p, rfl, rfl⟩ h
  exact ht.setPort hs hpp hsel.1 hsel.2

theorem assignRole_messagePriority :
    (assignRole t i).messagePriority = (t.ports i).messagePriority := by
  rw [assignRole]
  split
  case h_4 => split_ifs <;> rfl
  all_goals rfl

theorem updtRolesTree_messagePriority :
    ((updtRolesTree t).ports i).messagePriority = (t.ports i).messagePriority := by
  rw [updtRolesTree_ports, assignRole_messagePriority, updateGmPriority_best.ports]
  exact computeGmPathPriority_messagePriority

/-- The path vectors have the roots of what the ports hold. -/
theorem gmPath_root (hones : K onesRoot)
    (hport : K (t.ports i).portPriority.rootSystemIdentity) :
    K (t.gmPath i).rootSystemIdentity := by
  by_cases htimed : TimedOut t (t.ports i)
  · rw [gmPath_eq_of_timedOut htimed]
    exact hones
  · rw [gmPath_eq_of_not_timedOut htimed]
    exact hport

/-- A selection takes over one of the vectors that the ports hold, if none is in its first
state. -/
theorem NodeSound.selection (hones : K onesRoot) (hown : K t.ownRoot) (ht : NodeSound K t)
    (hfirst : ∀ i, (t.ports i).portAnnounceInformationState ≠ .begin) :
    NodeSound K (portRoleSelection t) := by
  by_cases hreselect : Reselecting t
  case neg =>
    rw [portRoleSelection_of_not_reselecting ht.selecting hreselect]
    exact ht
  have hsystem : (portRoleSelection t).systemPriority = t.systemPriority :=
    portRoleSelection_systemPriority
  have hsound : Sound (portRoleSelection t) :=
    @Sound.step n true t _ .portRoleSelection ht.sound rfl
  have hinfo : ∀ i, SameInfo (t.ports i) ((portRoleSelection t).ports i) :=
    fun i => portRoleSelection_sameInfo
  have hselects : Selects t (Input.portRoleSelection : Input n) := ⟨ht.selecting, hreselect⟩
  rw [portRoleSelection_of_selects hselects] at hsystem hsound hinfo ⊢
  -- what is selected is the system's own vector or that of a winner
  have hgm := (@setSelectedTree_gmPriorityVector n (updtRolesTree (clearReselectTree t))).trans
    updtRolesTree_gmPriorityVector
  have hroot : K (setSelectedTree (updtRolesTree
      (clearReselectTree t))).gmPriorityVector.rootSystemIdentity := by
    rw [hgm]
    split
    · exact hown
    case h_2 i _ => exact gmPath_root hones ((ht.ports i).portPriority (hfirst i))
  refine ⟨hsound, ?_, fun i => ⟨fun _ => ?_, fun _ => ?_, fun hreceive => ?_, fun m hm => ?_⟩, hroot,
    fun i hslave => ?_⟩
  · exact updtRolesTree_portRoleSelectionState.trans ht.selecting
  · rw [(hinfo i).portPriority]
    exact (ht.ports i).portPriority (hfirst i)
  · rw [setSelectedTree_masterPriority]
    exact hroot
  · have hmessage : ((updtRolesTree (clearReselectTree t)).ports i).messagePriority = _ :=
      updtRolesTree_messagePriority
    show K ((updtRolesTree (clearReselectTree t)).ports i).messagePriority.rootSystemIdentity
    rw [hmessage]
    exact (ht.ports i).messagePriority ((hinfo i).state.symm.trans hreceive)
  · exact (ht.ports i).frame m ((hinfo i).rcvdAnnouncePtr.symm.trans hm)
  · obtain ⟨-, hwinner⟩ := updtRolesTree_slave_iff.mp hslave
    have hbetter := (candidate_iff ht.sound.clearReselectTree).mp
      (winner_candidate ht.sound.clearReselectTree hwinner).1
    rw [hgm, hwinner, hsystem]
    exact ⟨by rw [Gptpm.ownRoot, hsystem]; exact hbetter.1, hbetter.2⟩

/-! ### The link -/

variable {host : Side → Host} {port : Side → Fin n} {root : Side → SystemIdentity} {s s' : Link n}
  {side : Side} {input : LinkInput n}

/-- The roots that may occur. -/
def Known (root : Side → SystemIdentity) (r : SystemIdentity) : Prop :=
  r = onesRoot ∨ ∃ side, r = root side

/-- What holds of the link all along. -/
structure LinkSound (root : Side → SystemIdentity) (s : Link n) : Prop where
  node : ∀ side, NodeSound (Known root) (s.node side)
  own : ∀ side, (s.node side).ownRoot = root side
  sent : ∀ side, ∀ m ∈ s.sent side, Known root (rootOf m)

/-- What an instance sends has the root that it follows, which it knows. -/
theorem LinkSound.send {clock : Clock} {tx : AnnounceTx n} (hs : LinkSound root s)
    (h : transmitAnnounce (host side) clock (s.node side) (s.tx side) (port side) = some tx) :
    LinkSound root (s.send side tx) where
  node := hs.node
  own := hs.own
  sent dest m hm := by
    have hm : m ∈ Function.update s.sent side.other (tx.ptpTxBuf :: s.sent side.other) dest := hm
    by_cases hdest : dest = side.other
    · rw [hdest, Function.update_self, List.mem_cons] at hm
      rcases hm with rfl | hm
      · have hroot := (transmitAnnounce_announces h).root 0
        rw [rootOf, hroot]
        exact (hs.node side).gmPriority
      · exact hs.sent _ m hm
    · rw [Function.update_of_ne hdest] at hm
      exact hs.sent dest m hm

theorem LinkSound.stepNode {input : Input n} (hs : LinkSound root s)
    (hnode : ∀ t', step (host side).bigEndian (s.node side) input = some t' →
      NodeSound (Known root) t')
    (h : s.stepNode host side input = some s') : LinkSound root s' := by
  obtain ⟨t', ht', rfl⟩ := Option.map_eq_some_iff.mp h
  refine ⟨fun q => ?_, fun q => ?_, hs.sent⟩ <;> show _ <;> dsimp only <;> by_cases hq : q = side
  · rw [hq, Function.update_self]
    exact hnode t' ht'
  · rw [Function.update_of_ne hq]
    exact hs.node q
  · rw [hq, Function.update_self, Gptpm.ownRoot, step_systemPriority ht']
    exact hs.own side
  · rw [Function.update_of_ne hq]
    exact hs.own q

/-- **Every step keeps the link sound**, a selection only after the first runs. -/
theorem LinkSound.step (hs : LinkSound root s) (hfirst : AfterFirstRuns s input)
    (h : linkStep host port s input = some s') : LinkSound root s' := by
  have hones : Known root onesRoot := Or.inl rfl
  cases input with
  | transmitAnnounce side clock =>
    obtain ⟨tx, htx, rfl⟩ := Option.map_eq_some_iff.mp h
    exact hs.send htx
  | processRxAnnounce side k =>
    obtain ⟨m, hm, hstep⟩ := Option.bind_eq_some_iff.mp h
    have hroot : Known root (rootOf m) := hs.sent side m (List.mem_of_getElem? hm)
    refine hs.stepNode (fun t' ht' => ?_) hstep
    have ht := hs.node side
    have hsound : Sound t' := ht.sound.step ht'
    obtain ⟨rcvdMsg, pathTrace, pathTraceLength, rfl⟩ := processRxAnnounce_eq_with ht'
    -- the frame is kept behind the pointer, with a root that is known
    have hport := ht.ports (port side)
    have hkeep : NodeSound (Known root) ((s.node side).setPort (port side)
        { (s.node side).ports (port side) with
          rcvdAnnouncePtr := some m
          rcvdMsg := rcvdMsg }) :=
      ht.setPort ⟨(ht.sound.ports _).vacant, fun _ => rfl⟩
        ⟨hport.portPriority, hport.masterPriority, hport.messagePriority,
          fun m' hm' => Option.some_inj.mp hm' ▸ hroot⟩ rfl rfl
    exact ⟨hsound, hkeep.selecting, hkeep.ports, hkeep.gmPriority, hkeep.slave⟩
  | portAnnounceInformation side p =>
    refine hs.stepNode (fun t' ht' => ?_) h
    exact (hs.node side).machine hones ht'
  | portRoleSelection side =>
    refine hs.stepNode (fun t' ht' => ?_) h
    obtain rfl := Option.some_inj.mp ht'
    exact (hs.node side).selection hones (Or.inr ⟨side, hs.own side⟩) hfirst
  | setAnnounceTimeoutCounter side p ticks | setSyncTimeoutCounter side p ticks =>
    refine hs.stepNode (fun t' ht' => ?_) h
    obtain rfl := Option.some_inj.mp ht'
    have hport := (hs.node side).ports p
    exact (hs.node side).setPort (((hs.node side).sound.ports p).of_sameInfo ⟨rfl, rfl, rfl, rfl, rfl⟩)
      ⟨hport.portPriority, hport.masterPriority, hport.messagePriority, hport.frame⟩ rfl rfl

/-! ### One of them follows -/

theorem SystemIdentity.value_injective {a b : SystemIdentity} (h : a.value = b.value) : a = b :=
  octets_injective (OctetOrder.value_injective (a.octets_length.trans b.octets_length.symm) h)

theorem Side.eq_other_of_ne {a b : Side} (h : a ≠ b) : a = b.other := by
  cases a <;> cases b
  case left.left | right.right => exact absurd rfl h
  all_goals rfl

/-- A slave follows the other system, and this has the smaller root. -/
theorem LinkSound.follows (hs : LinkSound root s) (h : s.Follows port side) :
    (s.node side).gmPriorityVector.rootSystemIdentity = root side.other ∧
      (root side.other).value < (root side).value := by
  obtain ⟨hforeign, hbetter⟩ := (hs.node side).slave (port side) h
  have hown := hs.own side
  rcases (hs.node side).gmPriority with hones | ⟨from', hroot⟩
  · -- ones are worse than the system
    have hworse := (hs.node side).sound.lt_ones
      (congrArg (·.priority1) hones) (congrArg (·.clockClass) hones)
    exact absurd hbetter (lt_asymm hworse)
  · have hne : from' ≠ side := by
      rintro rfl
      exact hforeign (congrArg (·.clockIdentity) (hroot.trans hown.symm))
    obtain rfl := Side.eq_other_of_ne hne
    refine ⟨hroot, lt_of_le_of_ne ?_ fun heq => ?_⟩
    · have hle := root_value_le_of_value_lt hbetter
      rw [hroot] at hle
      exact hown ▸ hle
    · have hsame := SystemIdentity.value_injective heq
      exact hforeign (congrArg (·.clockIdentity) (hroot.trans (hsame.trans hown.symm)))

theorem LinkSound.oneFollows (hs : LinkSound root s) : OneFollows port s := by
  constructor
  · rintro ⟨hleft, hright⟩
    exact lt_asymm (hs.follows hleft).2 (hs.follows hright).2
  · intro side h
    obtain ⟨hroot, hlt⟩ := hs.follows h
    rw [hroot, Link.smallerRoot, hs.own, hs.own]
    cases side with
    | left => exact (if_neg (lt_asymm hlt)).symm
    | right => exact (if_pos hlt).symm

/-! ### Runs -/

variable {mac : Side → Vector UInt8 6} {systemConfig : Side → SystemConfig}
  {portConfig : Side → Fin n → PortConfig} {ptpTxBuf : Side → Mem}

/-- The first turn leaves the first state, and there is nothing to select yet. -/
theorem portRoleSelection_of_initBridge (hstate : t.portRoleSelectionState = .initBridge)
    (h : ¬ Reselecting t) :
    portRoleSelection t =
      { updtRoleDisabledTree t with portRoleSelectionState := .roleSelection } := by
  have hturn : portRoleSelectionTurn t =
      { updtRoleDisabledTree t with portRoleSelectionState := .roleSelection } := by
    rw [portRoleSelectionTurn, hstate]
  have hagain : ¬ Reselecting
      { updtRoleDisabledTree t with portRoleSelectionState := .roleSelection } := h
  rw [portRoleSelection, hturn, hstate, if_neg PortRoleSelectionState.noConfusion]
  rw [portRoleSelectionTurn]
  exact if_neg hagain

/-- Nothing is received yet, and no port has run its machine. -/
theorem gptpSwInit_nodeSound {mac : Vector UInt8 6} {systemConfig : SystemConfig}
    {portConfig : Fin n → PortConfig} (hones : K onesRoot) :
    NodeSound K ((gptpSwInit mac (staticMemory systemConfig portConfig)).onlyPort p) := by
  have hsound : Sound (gptpSwInit mac (staticMemory systemConfig portConfig)) := gptpSwInit_sound
  have hselecting : (gptpSwInit mac (staticMemory systemConfig
      portConfig)).portRoleSelectionState = .roleSelection := gptpSwInit_portRoleSelectionState
  have hreset : ¬ Reselecting (gptpSwReset mac (staticMemory systemConfig portConfig)) := by
    rintro ⟨i, hi⟩
    cases hi
  have hinit : gptpSwInit mac (staticMemory systemConfig portConfig) = _ :=
    congrArg (fun g : Gptpm n => { g with
      newMaster := true
      ports := fun i =>
        { g.ports i with announceTimeoutCounter := 0, syncTimeoutCounter := 0 } })
      (portRoleSelection_of_initBridge rfl hreset)
  refine ⟨⟨hsound.clockClass, fun i => (hsound.ports i).of_sameInfo ⟨rfl, rfl, rfl, rfl, rfl⟩⟩,
    hselecting, fun i => ?_, ?_, fun i hslave => ?_⟩
  · rw [hinit]
    exact ⟨fun h => absurd rfl h, fun h => Bool.noConfusion h,
      fun h => PortAnnounceInformationState.noConfusion h, fun m h => by cases h⟩
  · rw [hinit]
    exact hones
  · rw [hinit] at hslave
    cases hslave

theorem Link.init_sound : LinkSound
    (fun side => (systemPriorityOf (mac side) (systemConfig side)).rootSystemIdentity)
    (Link.init port mac systemConfig portConfig ptpTxBuf) where
  node _ := gptpSwInit_nodeSound (Or.inl rfl)
  own side := by
    show (portRoleSelection (gptpSwReset (mac side) _)).systemPriority.rootSystemIdentity = _
    rw [portRoleSelection_systemPriority]
    rfl
  sent _ _ h := by cases h

/-- **At most one of two linked systems follows the other**, and then the one with the smaller
root, in every run in which no selection is made before the machine of each port has run. -/
theorem oneFollows_along (host : Side → Host) (port : Side → Fin n)
    (mac : Side → Vector UInt8 6) (systemConfig : Side → SystemConfig)
    (portConfig : Side → Fin n → PortConfig) (ptpTxBuf : Side → Mem) (inputs : List (LinkInput n))
    (hfirst : Runs.EachStep (linkStep host port) AfterFirstRuns
      (Link.init port mac systemConfig portConfig ptpTxBuf) inputs) :
    Runs.Throughout (linkStep host port) (OneFollows port)
      (Link.init port mac systemConfig portConfig ptpTxBuf) inputs :=
  Runs.throughout_of_eachStep
    (fun hs hfirst h => ⟨hs.step hfirst h, (hs.step hfirst h).oneFollows⟩)
    Link.init_sound Link.init_sound.oneFollows hfirst

/-! ### Examples -/

/-- Two systems with two ports each, joined at their first ones. -/
def exampleLink : Link 2 :=
  .init (fun _ => port0) (fun side => Vector.replicate 6 (if side = .left then 2 else 1))
    (fun _ => ⟨248, 248⟩) (fun _ _ => ⟨3, 3⟩) fun _ _ => 0

/-- The machine of each port runs, the roles are selected, and what is selected is taken over. -/
def comesUp (side : Side) : List (LinkInput 2) :=
  [.portAnnounceInformation side port0, .portAnnounceInformation side port1,
    .portRoleSelection side, .portAnnounceInformation side port0]

/-- The system on the right, which has the smaller root, announces it. -/
def announcesRoot : List (LinkInput 2) :=
  [.transmitAnnounce .right atBoot, .processRxAnnounce .left 0,
    .portAnnounceInformation .left port0, .portRoleSelection .left]

/-- The system on the left follows, and only this. -/
theorem left_follows :
    (Runs.run (linkStep (fun _ => bigEndianHost) fun _ => port0) exampleLink
      (comesUp .left ++ comesUp .right ++ announcesRoot)).map
      (fun s => (((s.node .left).ports port0).selectedRole,
        ((s.node .right).ports port0).selectedRole)) = some (.slave, .master) ∧
    Runs.Throughout (linkStep (fun _ => bigEndianHost) fun _ => port0) (OneFollows fun _ => port0)
      exampleLink (comesUp .left ++ comesUp .right ++ announcesRoot) :=
  ⟨by decide +kernel, oneFollows_along _ _ _ _ _ _ _ (by decide +kernel)⟩

/-- The machine of the first port runs before that of the second one: what is announced has the
root of the second one, which has not been written yet. -/
def announcesZeros (side : Side) : List (LinkInput 2) :=
  [.portAnnounceInformation side port0, .portRoleSelection side, .transmitAnnounce side atBoot]

/-- The machine of the second port runs, and what was announced comes in on the first one. -/
def receivesZeros (side : Side) : List (LinkInput 2) :=
  [.portAnnounceInformation side port1, .portRoleSelection side,
    .portAnnounceInformation side port0, .processRxAnnounce side 0,
    .portAnnounceInformation side port0, .portRoleSelection side]

/-- **Both systems follow a root of zeros** that each has announced to the other. -/
theorem both_follow :
    ¬ Runs.Throughout (linkStep (fun _ => bigEndianHost) fun _ => port0) (OneFollows fun _ => port0)
      exampleLink (announcesZeros .left ++ announcesZeros .right ++
        (receivesZeros .left ++ receivesZeros .right)) := by
  intro h
  have hrun : (Runs.run (linkStep (fun _ => bigEndianHost) fun _ => port0) exampleLink
      (announcesZeros .left ++ announcesZeros .right ++
        (receivesZeros .left ++ receivesZeros .right))).map
      (fun s => (((s.node .left).ports port0).selectedRole,
        ((s.node .right).ports port0).selectedRole)) = some (.slave, .slave) := by
    decide +kernel
  obtain ⟨s, hs, hroles⟩ := Option.map_eq_some_iff.mp hrun
  obtain ⟨hleft, hright⟩ := Prod.mk.inj hroles
  exact (h _ s List.prefix_rfl hs).1 ⟨hleft, hright⟩

end Gptp
