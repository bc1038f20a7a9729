/-
The announce machines of a port: PortAnnounceReceive (802.1AS, 10.3.10) and
PortAnnounceInformation (10.3.11).

The frame of an Announce message is a memory whose address 0 is the first octet of the
common header.  `*((unsigned short*) tlvLength)` is read in the order of the host, which
is a parameter (`bigEndian`).

* `portAnnounceInformation_isSome` — the loop of the machine comes to rest;
* `portAnnounceInformation_invariant` — what every entry action preserves, the machine
  preserves.
-/
import AvbSwitch.GptpState

open Octets OctetOrder

namespace Gptp

/-! ### The fields of an Announce message -/

/-- Two octets of a frame. -/
def shortAt (m : Mem) (a : ℕ) : Short := ⟨m a, m (a + 1)⟩

/-- Eight octets of a frame. -/
def clockIdentityAt (m : Mem) (a : ℕ) : ClockIdentity := Vector.ofFn fun k => m (a + k)

/-- `get_source_port_id`. -/
def getSourcePortId (m : Mem) : PortIdentity := ⟨clockIdentityAt m 20, shortAt m 28⟩

/-- `get_rx_announce_steps_removed`. -/
def getRxAnnounceStepsRemoved (m : Mem) : ℕ := (shortAt m 61).get

/-- `*((unsigned short*)pAnnounceMesg->tlvLength)`. -/
def tlvLength (bigEndian : Bool) (m : Mem) : ℕ :=
  if bigEndian then get2 m 66 else (m 67).toNat * 256 + (m 66).toNat

/-- What `get_rx_announce_path_trace` returns. -/
def rxPathTraceLength (bigEndian : Bool) (m : Mem) : ℕ := tlvLength bigEndian m / 8

/-- What `get_rx_announce_path_trace` stores at index `i`. -/
def rxPathTrace (m : Mem) (i : ℕ) : ClockIdentity := clockIdentityAt m (68 + 8 * i)

/-- `extract_announce`.  The port number is 1 based. -/
def extractAnnounce (m : Mem) (port : ℕ) : PriorityVector where
  rootSystemIdentity :=
    { priority1 := m 47
      clockClass := m 48
      clockAccuracy := m 49
      offsetScaledLogVariance := shortAt m 50
      priority2 := m 52
      clockIdentity := clockIdentityAt m 53 }
  stepsRemoved := shortAt m 61
  sourcePortIdentity := getSourcePortId m
  portNumber := setPortNumber (port + 1)

/-! ### PortAnnounceReceive -/

variable {n : ℕ} {t t' : Gptpm n} {p : Fin n} {pp pp' : Port} {m : Mem}

/-- `qualifyAnnounce`: the instance it leaves, and its answer.  It is not defined if the
loop over the path trace runs past the end of the array. -/
def qualifyAnnounce (bigEndian : Bool) (t : Gptpm n) (p : Fin n) (m : Mem) :
    Option (Gptpm n × Bool) :=
  let thisClock := t.systemPriority.sourcePortIdentity.clockIdentity
  if (getSourcePortId m).clockIdentity = thisClock then some (t, false)
  else if 255 < getRxAnnounceStepsRemoved m then some (t, false)
  else
    let length := rxPathTraceLength bigEndian m
    if ∃ i < min length maxPathTrace, rxPathTrace m i = thisClock then some (t, false)
    else if maxPathTrace < length then none
    else if (t.ports p).selectedRole = .slave then
      some ({ t with
        pathTrace := fun i => if i < length then rxPathTrace m i else t.pathTrace i
        pathTraceLength := length }, true)
    else some (t, true)

/-- `PortAnnounceReceive_StateMachine` on the frame `m`. -/
def portAnnounceReceive (bigEndian : Bool) (t : Gptpm n) (p : Fin n) (m : Mem) :
    Option (Gptpm n) :=
  if (t.ports p).operational then
    (qualifyAnnounce bigEndian t p m).map fun r =>
      r.1.setPort p { r.1.ports p with rcvdMsg := r.2 }
  else some (t.setPort p { t.ports p with rcvdMsg := false })

/-- `process_rx_announce`. -/
def processRxAnnounce (bigEndian : Bool) (t : Gptpm n) (p : Fin n) (rxBuffer : Mem) :
    Option (Gptpm n) :=
  portAnnounceReceive bigEndian
    (t.setPort p { t.ports p with rcvdAnnouncePtr := some rxBuffer }) p rxBuffer

/-! ### PortAnnounceInformation -/

/-- `rcvInfo`. -/
def rcvInfo (port : ℕ) (pp : Port) (m : Mem) : Port :=
  let message := extractAnnounce m port
  { pp with
    messagePriority := message
    rcvdInfo :=
      match memcmp pp.portPriority.octets message.octets with
      | .gt => .superiorMasterInfo
      | .eq => .repeatedMasterInfo
      | .lt => .inferiorMasterInfo }

/-- `recordOtherAnnounceInfo`. -/
def recordOtherAnnounceInfo (pp : Port) (m : Mem) : Port :=
  { pp with
    annleap61 := m 7 &&& 0x1
    annleap59 := m 7 &&& 0x2
    anncurrentUtcOffsetValid := m 7 &&& 0x4
    anntimeTraceable := m 7 &&& 0x10
    annfrequencyTraceable := m 7 &&& 0x20
    annCurrentUtcOffset := UInt16.ofNat (shortAt m 44).get
    anntimeSource := (m 63).toUInt16 }

/-- `PortAnnounceInformation_StateMachine_SetState`.  It is not defined where it reads
through a null pointer. -/
def setState (masterStepsRemoved : UInt16) (port : ℕ) (pp : Port)
    (newState : PortAnnounceInformationState) : Option Port :=
  let pp := { pp with portAnnounceInformationState := newState }
  match newState with
  | .begin | .disabled =>
    some { pp with
      rcvdMsg := false
      announceTimeoutCounter := 0
      infoIs := .disabled
      reselect := true
      selected := false
      portPriority := .memset 0xFF }
  | .aged => some { pp with infoIs := .aged, reselect := true, selected := false }
  | .update =>
    some { pp with
      portPriority := pp.masterPriority
      portStepsRemoved := masterStepsRemoved
      updtInfo := false
      infoIs := .mine
      newInfo := true }
  | .superiorMasterPort =>
    pp.rcvdAnnouncePtr.map fun m =>
      { recordOtherAnnounceInfo { pp with portPriority := pp.messagePriority } m with
        announceTimeoutCounter := 0
        infoIs := .received
        reselect := true
        selected := false
        rcvdMsg := false }
  | .repeatedMasterPort => some { pp with announceTimeoutCounter := 0, rcvdMsg := false }
  | .inferiorMasterOrOtherPort => some { pp with rcvdMsg := false }
  | .current => some pp
  | .receive => pp.rcvdAnnouncePtr.map (rcvInfo port pp)

/-- The state that the machine enters next, if any. -/
def nextState (gmPresent : Bool) (pp : Port) : Option PortAnnounceInformationState :=
  if pp.operational then
    match pp.portAnnounceInformationState with
    | .begin => some .disabled
    | .disabled => some .aged
    | .aged => if pp.selected && pp.updtInfo then some .update else none
    | .update | .superiorMasterPort | .repeatedMasterPort | .inferiorMasterOrOtherPort =>
      some .current
    | .current =>
      if pp.selected && pp.updtInfo then some .update
      else if pp.rcvdMsg && !pp.updtInfo then some .receive
      else if pp.infoIs = .received ∧
          (pp.announceTimeout || pp.syncTimeout && gmPresent) ∧ !pp.updtInfo ∧ !pp.rcvdMsg then
        some .aged
      else none
    | .receive =>
      match pp.rcvdInfo with
      | .superiorMasterInfo => some .superiorMasterPort
      | .repeatedMasterInfo => some .repeatedMasterPort
      | .inferiorMasterInfo | .otherInfo => some .inferiorMasterOrOtherPort
  else if pp.portAnnounceInformationState = .disabled then none
  else some .disabled

/-- One turn of the loop of `PortAnnounceInformation_StateMachine`. -/
def turn (gmPresent : Bool) (masterStepsRemoved : UInt16) (port : ℕ) (pp : Port) : Option Port :=
  match nextState gmPresent pp with
  | none => some pp
  | some newState => setState masterStepsRemoved port pp newState

/-- The loop, as long as the state changes.  No run takes more than eight turns. -/
def turns (gmPresent : Bool) (masterStepsRemoved : UInt16) (port : ℕ) :
    ℕ → Port → Option Port
  | 0, _ => none
  | fuel + 1, pp =>
    (turn gmPresent masterStepsRemoved port pp).bind fun pp' =>
      if pp.portAnnounceInformationState = pp'.portAnnounceInformationState then some pp'
      else turns gmPresent masterStepsRemoved port fuel pp'

/-- `PortAnnounceInformation_StateMachine`. -/
def portAnnounceInformation (t : Gptpm n) (p : Fin n) : Option (Gptpm n) :=
  (turns t.gmPresent t.masterStepsRemoved p 8 (t.ports p)).map (t.setPort p)

/-! ### What the machine preserves -/

variable {gmPresent : Bool} {masterStepsRemoved : UInt16} {port fuel : ℕ}
  {s : PortAnnounceInformationState}

theorem turn_of_none (h : nextState gmPresent pp = none) :
    turn gmPresent masterStepsRemoved port pp = some pp := by
  rw [turn, h]

theorem turn_of_some (h : nextState gmPresent pp = some s) :
    turn gmPresent masterStepsRemoved port pp = setState masterStepsRemoved port pp s := by
  rw [turn, h]

theorem turns_invariant {I : Port → Prop}
    (hI : ∀ {pp pp' s}, I pp → nextState gmPresent pp = some s →
      setState masterStepsRemoved port pp s = some pp' → I pp') :
    ∀ {pp pp' : Port}, I pp → turns gmPresent masterStepsRemoved port fuel pp = some pp' → I pp' := by
  induction fuel with
  | zero => intro pp pp' _ h; exact absurd h nofun
  | succ fuel ih =>
    intro pp pp' hpp h
    obtain ⟨pp₁, hturn, hrest⟩ := Option.bind_eq_some_iff.mp h
    have hpp₁ : I pp₁ := by
      match hnext : nextState gmPresent pp with
      | none => exact Option.some_inj.mp ((turn_of_none hnext).symm.trans hturn) ▸ hpp
      | some s => exact hI hpp hnext ((turn_of_some hnext).symm.trans hturn)
    split at hrest
    · exact Option.some_inj.mp hrest ▸ hpp₁
    · exact ih hpp₁ hrest

/-- **What each entry action preserves, the machine preserves.** -/
theorem portAnnounceInformation_invariant {I : Port → Prop}
    (hI : ∀ {pp pp' s}, I pp → nextState t.gmPresent pp = some s →
      setState t.masterStepsRemoved p pp s = some pp' → I pp')
    (hp : I (t.ports p)) (h : portAnnounceInformation t p = some t') :
    ∃ pp', I pp' ∧ t' = t.setPort p pp' := by
  obtain ⟨pp', hturns, hset⟩ := Option.map_eq_some_iff.mp h
  exact ⟨pp', turns_invariant hI hp hturns, hset.symm⟩

/-! ### The loop comes to rest -/

theorem setState_state (h : setState masterStepsRemoved port pp s = some pp') :
    pp'.portAnnounceInformationState = s := by
  cases s <;> simp only [setState, Option.some_inj, Option.map_eq_some_iff] at h
  case superiorMasterPort | receive =>
    obtain ⟨m, -, rfl⟩ := h
    rfl
  all_goals exact h ▸ rfl

theorem setState_operational (h : setState masterStepsRemoved port pp s = some pp') :
    pp'.operational = pp.operational := by
  cases s <;> simp only [setState, Option.some_inj, Option.map_eq_some_iff] at h
  case superiorMasterPort | receive =>
    obtain ⟨m, -, rfl⟩ := h
    rfl
  all_goals exact h ▸ rfl

/-- The flags `rcvdMsg`, `selected` and `updtInfo` after an entry action. -/
theorem setState_flags (h : setState masterStepsRemoved port pp s = some pp') :
    (pp'.rcvdMsg, pp'.selected, pp'.updtInfo) =
      match s with
      | .begin | .disabled | .superiorMasterPort => (false, false, pp.updtInfo)
      | .aged => (pp.rcvdMsg, false, pp.updtInfo)
      | .update => (pp.rcvdMsg, pp.selected, false)
      | .repeatedMasterPort | .inferiorMasterOrOtherPort => (false, pp.selected, pp.updtInfo)
      | .current | .receive => (pp.rcvdMsg, pp.selected, pp.updtInfo) := by
  cases s <;> simp only [setState, Option.some_inj, Option.map_eq_some_iff] at h
  case superiorMasterPort | receive =>
    obtain ⟨m, -, rfl⟩ := h
    rfl
  all_goals exact h ▸ rfl

/-- The turns still to come, at most: an update, then a pending message, then ageing. -/
def turnsLeft (pp : Port) : ℕ :=
  let updated := if pp.rcvdMsg then 4 else 1
  let current :=
    if pp.selected && pp.updtInfo then 2 + updated
    else if pp.rcvdMsg && !pp.updtInfo then 4 else 1
  if pp.operational then
    match pp.portAnnounceInformationState with
    | .begin => 2
    | .disabled => 1
    | .aged => if pp.selected && pp.updtInfo then 2 + updated else 0
    | .update | .superiorMasterPort | .repeatedMasterPort | .inferiorMasterOrOtherPort =>
      1 + current
    | .current => current
    | .receive => if pp.selected && pp.updtInfo then 5 else 3
  else if pp.portAnnounceInformationState = .disabled then 0 else 1

theorem turnsLeft_lt_eight : turnsLeft pp < 8 := by
  grind [turnsLeft]

theorem turnsLeft_lt (hnext : nextState gmPresent pp = some s)
    (hset : setState masterStepsRemoved port pp s = some pp') : turnsLeft pp' < turnsLeft pp := by
  have hflags := setState_flags hset
  rw [turnsLeft, turnsLeft, setState_operational hset, setState_state hset]
  rw [nextState] at hnext
  cases hop : pp.operational
  · simp only [hop, Bool.false_eq_true, if_false, Option.ite_none_left_eq_some,
      Option.some_inj] at hnext ⊢
    rw [if_neg hnext.1, if_pos hnext.2.symm]
    exact Nat.one_pos
  · simp only [hop, if_true] at hnext ⊢
    cases hstate : pp.portAnnounceInformationState <;> simp only [hstate] at hnext ⊢ <;> grind

/-- Where the machine reads a frame, there is one. -/
def Readable (pp : Port) : Prop :=
  pp.rcvdMsg ∨ pp.portAnnounceInformationState = .receive → pp.rcvdAnnouncePtr.isSome

/-- A frame is read on receiving and on taking over what was received. -/
theorem nextState_reads (hnext : nextState gmPresent pp = some s)
    (hs : s = .receive ∨ s = .superiorMasterPort) :
    pp.rcvdMsg ∨ pp.portAnnounceInformationState = .receive := by
  rw [nextState] at hnext
  rcases hs with rfl | rfl
  · exact Or.inl (by grind)
  · exact Or.inr (by grind)

theorem ptr_of_nextState (hread : Readable pp) (hnext : nextState gmPresent pp = some s)
    (hs : s = .receive ∨ s = .superiorMasterPort) : pp.rcvdAnnouncePtr.isSome :=
  hread (nextState_reads hnext hs)

theorem setState_isSome (hptr : s = .receive ∨ s = .superiorMasterPort → pp.rcvdAnnouncePtr.isSome) :
    (setState masterStepsRemoved port pp s).isSome := by
  cases s
  case superiorMasterPort => exact Option.isSome_map.trans (hptr (Or.inr rfl))
  case receive => exact Option.isSome_map.trans (hptr (Or.inl rfl))
  all_goals rfl

theorem setState_rcvdAnnouncePtr (h : setState masterStepsRemoved port pp s = some pp') :
    pp'.rcvdAnnouncePtr = pp.rcvdAnnouncePtr := by
  cases s <;> simp only [setState, Option.some_inj, Option.map_eq_some_iff] at h
  case superiorMasterPort | receive =>
    obtain ⟨m, -, rfl⟩ := h
    rfl
  all_goals exact h ▸ rfl

theorem Readable.setState (hread : Readable pp) (hnext : nextState gmPresent pp = some s)
    (hset : setState masterStepsRemoved port pp s = some pp') : Readable pp' := by
  have hflags := setState_flags hset
  rw [Readable, setState_rcvdAnnouncePtr hset, setState_state hset]
  rintro (hmsg | hs)
  · -- no entry action sets `rcvdMsg`
    refine hread (Or.inl ?_)
    cases s <;> simp only [Prod.mk.injEq] at hflags <;> simp_all
  · exact ptr_of_nextState hread hnext (Or.inl hs)

/-- **The machine comes to rest**, and eight turns are enough. -/
theorem turns_isSome (hread : Readable pp) (hfuel : turnsLeft pp < fuel) :
    (turns gmPresent masterStepsRemoved port fuel pp).isSome := by
  induction fuel generalizing pp with
  | zero => exact absurd hfuel (Nat.not_lt_zero _)
  | succ fuel ih =>
    rw [turns]
    match hnext : nextState gmPresent pp with
    | none => rw [turn_of_none hnext, Option.bind_some, if_pos rfl, Option.isSome_some]
    | some s =>
      obtain ⟨pp', hset⟩ := Option.isSome_iff_exists.mp
        (setState_isSome (ptr_of_nextState hread hnext) :
          (setState masterStepsRemoved port pp s).isSome)
      have hlt := turnsLeft_lt hnext hset
      rw [turn_of_some hnext, hset, Option.bind_some]
      split
      · rfl
      · exact ih (hread.setState hnext hset) (by omega)

theorem portAnnounceInformation_isSome (hread : Readable (t.ports p)) :
    (portAnnounceInformation t p).isSome := by
  rw [portAnnounceInformation, Option.isSome_map]
  exact turns_isSome hread turnsLeft_lt_eight

end Gptp
