/-
How the time properties of the grandmaster are relayed.

A history is kept beside the instance (`Relay`): from which message each port has its vector,
and which of these messages the last selection has taken for that of the grandmaster.  It is
read by no function of the program.

* `RelaySound` — the system-wide variables are those of the message that is relayed, as the
  masks of the receiver leave them;
* `relays_along_iff` — the frames that are sent carry the time properties of that message
  exactly if it sets none of the flags that stand above the lowest bit: the sender expects each
  flag in the lowest bit of its variable.
-/
import AvbSwitch.PathTrace

open Octets

namespace Gptp

variable {n : ℕ} {bigEndian : Bool} {gmPresent : Bool} {masterStepsRemoved : UInt16}
  {port fuel : ℕ} {pp pp' : Port} {t t' : Gptpm n} {s : PortAnnounceInformationState} {m m' : Mem}
  {host : Host} {clock : Clock} {tx tx' : AnnounceTx n} {p i : Fin n} {input : Input n}

/-! ### What the machine enters -/

/-- The states that the machine enters. -/
def enteredStates (gmPresent : Bool) (masterStepsRemoved : UInt16) (port : ℕ) :
    ℕ → Port → List PortAnnounceInformationState
  | 0, _ => []
  | fuel + 1, pp =>
    match nextState gmPresent pp with
    | none => []
    | some s =>
      match setState masterStepsRemoved port pp s with
      | none => []
      | some pp' =>
        s :: if pp.portAnnounceInformationState = pp'.portAnnounceInformationState then []
          else enteredStates gmPresent masterStepsRemoved port fuel pp'

/-- **What each entry action preserves, together with a record of the states that are entered,
the machine preserves.** -/
theorem turns_entered {γ : Type*} {I : Port → γ → Prop}
    {f : γ → PortAnnounceInformationState → γ}
    (hI : ∀ {pp pp' s g}, I pp g → nextState gmPresent pp = some s →
      setState masterStepsRemoved port pp s = some pp' → I pp' (f g s)) :
    ∀ {pp pp' : Port} {g : γ}, I pp g →
      turns gmPresent masterStepsRemoved port fuel pp = some pp' →
        I pp' ((enteredStates gmPresent masterStepsRemoved port fuel pp).foldl f g) := by
  induction fuel with
  | zero => intro pp pp' g _ h; exact absurd h nofun
  | succ fuel ih =>
    intro pp pp' g hpp h
    obtain ⟨pp₁, hturn, hrest⟩ := Option.bind_eq_some_iff.mp h
    rw [enteredStates]
    match hnext : nextState gmPresent pp with
    | none =>
      obtain rfl := Option.some_inj.mp ((turn_of_none hnext).symm.trans hturn)
      rw [if_pos rfl] at hrest
      exact Option.some_inj.mp hrest ▸ hpp
    -- the loop and the list of states end in the same turn
    | some s =>
      have hset := (turn_of_some hnext).symm.trans hturn
      have hpp₁ := hI hpp hnext hset
      simp only [hset]
      split at hrest
      case isTrue hsame =>
        rw [if_pos hsame]
        exact Option.some_inj.mp hrest ▸ hpp₁
      case isFalse hdiffers =>
        rw [if_neg hdiffers]
        exact ih hpp₁ hrest

/-! ### The history -/

/-- The message that a port has its vector from, after an entry action. -/
def adoptedAfter (frame adopted : Option Mem) : PortAnnounceInformationState → Option Mem
  | .superiorMasterPort => frame
  | .begin | .disabled | .update => none
  | _ => adopted

/-- An instance and its history. -/
structure Relay (n : ℕ) where
  system : Gptpm n
  /-- the message that was accepted as superior on each port, until its vector is overwritten -/
  adopted : Fin n → Option Mem
  /-- the message whose vector the last selection has made the grandmaster's -/
  relayed : Option Mem

def Relay.init (t : Gptpm n) : Relay n := ⟨t, fun _ => none, none⟩

/-- What is recorded of a step. -/
def Relay.record (r : Relay n) (input : Input n) (t' : Gptpm n) : Relay n :=
  match input with
  | .portAnnounceInformation p =>
    let t := r.system
    let entered := enteredStates t.gmPresent t.masterStepsRemoved p 8 (t.ports p)
    { r with
      system := t'
      adopted := Function.update r.adopted p
        (entered.foldl (adoptedAfter (t.ports p).rcvdAnnouncePtr) (r.adopted p)) }
  | .portRoleSelection =>
    { r with
      system := t'
      relayed :=
        if r.system.portRoleSelectionState = .roleSelection ∧ Reselecting r.system then
          (winner (clearReselectTree r.system)).bind r.adopted
        else r.relayed }
  | _ => { r with system := t' }

/-- A step and its record. -/
def relayStep (bigEndian : Bool) (r : Relay n) (input : Input n) : Option (Relay n) :=
  (step bigEndian r.system input).map (r.record input)

/-! ### Time properties of a message -/

/-- The time properties of a message, as the masks of the receiver leave them. -/
def timePropertiesAt (m : Mem) : TimeProperties where
  currentUtcOffset := UInt16.ofNat (shortAt m 44).get
  leap59 := m 7 &&& 0x2
  leap61 := m 7 &&& 0x1
  currentUtcOffsetValid := m 7 &&& 0x4
  timeTraceable := m 7 &&& 0x10
  frequencyTraceable := m 7 &&& 0x20
  timeSource := (m 63).toUInt16

/-- Two messages say the same about the time. -/
structure SameTimeProperties (m m' : Mem) : Prop where
  leap61 : m' 7 &&& 0x1 = m 7 &&& 0x1
  leap59 : m' 7 &&& 0x2 = m 7 &&& 0x2
  currentUtcOffsetValid : m' 7 &&& 0x4 = m 7 &&& 0x4
  timeTraceable : m' 7 &&& 0x10 = m 7 &&& 0x10
  frequencyTraceable : m' 7 &&& 0x20 = m 7 &&& 0x20
  currentUtcOffset : shortAt m' 44 = shortAt m 44
  timeSource : m' 63 = m 63

/-- The message sets none of leap59, currentUtcOffsetValid, timeTraceable and
frequencyTraceable. -/
def NoHighFlags (m : Mem) : Prop := m 7 &&& 0x36 = 0

/-- The flags that are sent if those of the octet `x` were received. -/
theorem relayedFlags (x : UInt8) :
    flagBit (x &&& 0x1) 0 ||| flagBit (x &&& 0x2) 1 ||| flagBit (x &&& 0x4) 2 ||| flagBit 1 3 |||
      flagBit (x &&& 0x10) 4 ||| flagBit (x &&& 0x20) 5 = (x &&& 0x1) ||| 0x8 := by
  have hall : ∀ k : Fin 256,
      flagBit (UInt8.ofFin k &&& 0x1) 0 ||| flagBit (UInt8.ofFin k &&& 0x2) 1 |||
        flagBit (UInt8.ofFin k &&& 0x4) 2 ||| flagBit 1 3 ||| flagBit (UInt8.ofFin k &&& 0x10) 4 |||
        flagBit (UInt8.ofFin k &&& 0x20) 5 = (UInt8.ofFin k &&& 0x1) ||| 0x8 := by
    decide +kernel
  exact hall x.toFin

/-- Of these the lowest one is right, and the others are if they are not set. -/
theorem sameFlags_iff (x : UInt8) :
    (((x &&& 0x1) ||| 0x8) &&& 0x1 = x &&& 0x1 ∧ ((x &&& 0x1) ||| 0x8) &&& 0x2 = x &&& 0x2 ∧
        ((x &&& 0x1) ||| 0x8) &&& 0x4 = x &&& 0x4 ∧ ((x &&& 0x1) ||| 0x8) &&& 0x10 = x &&& 0x10 ∧
        ((x &&& 0x1) ||| 0x8) &&& 0x20 = x &&& 0x20) ↔ x &&& 0x36 = 0 := by
  have hall : ∀ k : Fin 256,
      ((((UInt8.ofFin k &&& 0x1) ||| 0x8) &&& 0x1 = UInt8.ofFin k &&& 0x1 ∧
        ((UInt8.ofFin k &&& 0x1) ||| 0x8) &&& 0x2 = UInt8.ofFin k &&& 0x2 ∧
        ((UInt8.ofFin k &&& 0x1) ||| 0x8) &&& 0x4 = UInt8.ofFin k &&& 0x4 ∧
        ((UInt8.ofFin k &&& 0x1) ||| 0x8) &&& 0x10 = UInt8.ofFin k &&& 0x10 ∧
        ((UInt8.ofFin k &&& 0x1) ||| 0x8) &&& 0x20 = UInt8.ofFin k &&& 0x20) ↔
          UInt8.ofFin k &&& 0x36 = 0) := by
    decide +kernel
  exact hall x.toFin

/-- What is sent says the same as the message whose time properties the system has taken over,
exactly if the message does not set the flags in question. -/
theorem Announces.sameTimeProperties_iff (h : Announces bigEndian t tx p m')
    (ht : t.timeProperties = timePropertiesAt m) : SameTimeProperties m m' ↔ NoHighFlags m := by
  obtain ⟨hoffset, h59, h61, hvalid, htime, hfrequency, hsource⟩ := TimeProperties.mk.inj ht
  have hflags : m' 7 = (m 7 &&& 0x1) ||| 0x8 := by
    rw [h.flags, announceFlags, h61, h59, hvalid, htime, hfrequency, relayedFlags]
  rw [NoHighFlags, ← sameFlags_iff, ← hflags]
  constructor
  · intro hsame
    exact ⟨hsame.leap61, hsame.leap59, hsame.currentUtcOffsetValid, hsame.timeTraceable,
      hsame.frequencyTraceable⟩
  · rintro ⟨h1, h2, h4, h10, h20⟩
    refine ⟨h1, h2, h4, h10, h20, ?_, ?_⟩
    · rw [h.currentUtcOffset, hoffset, UInt16.toNat_ofNat', Nat.mod_eq_of_lt Short.get_lt,
        Short.put_get]
    · rw [h.timeSource, hsource, UInt8.toUInt8_toUInt16]

/-! ### What holds of the history -/

/-- What holds of an instance and its history in every state. -/
structure RelaySound (r : Relay n) : Prop where
  selecting : r.system.portRoleSelectionState = .roleSelection
  adopted : ∀ i m, r.adopted i = some m →
    (r.system.ports i).timeProperties = timePropertiesAt m
  relayed : ∀ m, r.relayed = some m → r.system.timeProperties = timePropertiesAt m
  /-- what is relayed was received on some port -/
  port : ∀ m, r.relayed = some m → Nonempty (Fin n)
  length : r.system.pathTraceLength ≤ maxPathTrace

theorem qualifyAnnounce_timeProperties {r : Gptpm n × Bool}
    (h : qualifyAnnounce bigEndian t p m = some r) :
    r.1.timeProperties = t.timeProperties ∧
      r.1.portRoleSelectionState = t.portRoleSelectionState := by
  simp only [qualifyAnnounce] at h
  split_ifs at h <;> obtain rfl := Option.some_inj.mp h <;> exact ⟨rfl, rfl⟩

/-- A step that is not a selection leaves the system-wide variables alone. -/
theorem step_timeProperties (h : step bigEndian t input = some t')
    (hinput : input ≠ .portRoleSelection) :
    t'.timeProperties = t.timeProperties ∧
      t'.portRoleSelectionState = t.portRoleSelectionState := by
  cases input with
  | processRxAnnounce p m =>
    have h : processRxAnnounce bigEndian t p m = some t' := h
    rw [processRxAnnounce, portAnnounceReceive] at h
    split at h
    · obtain ⟨r, hr, rfl⟩ := Option.map_eq_some_iff.mp h
      have hkept := qualifyAnnounce_timeProperties hr
      exact hkept
    · exact Option.some_inj.mp h ▸ ⟨rfl, rfl⟩
  | portAnnounceInformation p =>
    obtain ⟨pp, -, rfl⟩ := Option.map_eq_some_iff.mp h
    exact ⟨rfl, rfl⟩
  | portRoleSelection => exact absurd rfl hinput
  | _ => exact Option.some_inj.mp h ▸ ⟨rfl, rfl⟩

/-- An entry action takes the time properties over from the message that it adopts. -/
theorem adoptedAfter_sound {frame adopted : Option Mem} (hframe : pp.rcvdAnnouncePtr = frame)
    (hpp : ∀ m, adopted = some m → pp.timeProperties = timePropertiesAt m)
    (hset : setState masterStepsRemoved port pp s = some pp') :
    ∀ m, adoptedAfter frame adopted s = some m → pp'.timeProperties = timePropertiesAt m := by
  intro m hm
  cases s <;> simp only [setState, Option.some_inj, Option.map_eq_some_iff] at hset
  case superiorMasterPort =>
    obtain ⟨m', hm', rfl⟩ := hset
    obtain rfl : m' = m := Option.some_inj.mp ((hm'.symm.trans hframe).trans hm)
    rfl
  -- a message is looked at, but its time properties are not taken over
  case receive =>
    obtain ⟨m', -, rfl⟩ := hset
    exact hpp m hm
  -- these actions leave nothing adopted
  case begin | disabled | update => cases hm
  all_goals
    subst hset
    exact hpp m hm

theorem setPort_timeProperties (h : pp.timeProperties = (t.ports p).timeProperties) :
    ((t.setPort p pp).ports i).timeProperties = (t.ports i).timeProperties := by
  by_cases hi : i = p
  · rw [hi, Gptpm.setPort_ports_self, h]
  · rw [Gptpm.setPort_ports_of_ne hi]

theorem portRoleSelectionTurn_timeProperties :
    ((portRoleSelectionTurn t).ports i).timeProperties = (t.ports i).timeProperties := by
  rw [portRoleSelectionTurn]
  split
  · rfl
  · split
    · exact updtRolesTree_port_timeProperties (t := clearReselectTree t)
    · rfl

/-- Only the machine of the port writes its time properties. -/
theorem step_port_timeProperties (h : step bigEndian t input = some t')
    (hinput : input ≠ .portAnnounceInformation i) :
    (t'.ports i).timeProperties = (t.ports i).timeProperties := by
  cases input with
  | processRxAnnounce p m =>
    obtain ⟨-, hother, rcvdMsg, hself⟩ := processRxAnnounce_eq h
    by_cases hi : i = p
    · rw [hi, hself]
      rfl
    · rw [hother i hi]
  | portAnnounceInformation p =>
    obtain ⟨pp, -, rfl⟩ := Option.map_eq_some_iff.mp h
    have hi : i ≠ p := fun hi => hinput (hi ▸ rfl)
    rw [Gptpm.setPort_ports_of_ne hi]
  | portRoleSelection =>
    obtain rfl := Option.some_inj.mp h
    rw [portRoleSelection]
    split
    · exact portRoleSelectionTurn_timeProperties
    · exact portRoleSelectionTurn_timeProperties.trans portRoleSelectionTurn_timeProperties
  | _ =>
    obtain rfl := Option.some_inj.mp h
    exact setPort_timeProperties rfl

variable {r r' : Relay n}

theorem Relay.record_system : (r.record input t').system = t' := by
  cases input <;> rfl

/-- What a port has adopted after a run of its machine. -/
theorem RelaySound.adopted_machine (hr : RelaySound r)
    (h : portAnnounceInformation r.system p = some t') :
    ∀ i m, (r.record (.portAnnounceInformation p) t').adopted i = some m →
      (t'.ports i).timeProperties = timePropertiesAt m := by
  obtain ⟨pp, hturns, rfl⟩ := Option.map_eq_some_iff.mp h
  intro i m hm
  have hm : Function.update r.adopted p _ i = some m := hm
  by_cases hi : i = p
  · subst hi
    rw [Function.update_self] at hm
    rw [Gptpm.setPort_ports_self]
    -- the buffer stays the same while the machine runs
    refine (turns_entered (I := fun pp g => pp.rcvdAnnouncePtr = (r.system.ports i).rcvdAnnouncePtr ∧
      ∀ m, g = some m → pp.timeProperties = timePropertiesAt m) (fun hI _ hset => ?_)
      ⟨rfl, hr.adopted i⟩ hturns).2 m hm
    exact ⟨(setState_rcvdAnnouncePtr hset).trans hI.1, adoptedAfter_sound hI.1 hI.2 hset⟩
  · rw [Function.update_of_ne hi] at hm
    rw [Gptpm.setPort_ports_of_ne hi]
    exact hr.adopted i m hm

/-- What is relayed after a selection. -/
theorem RelaySound.relayed_selection (hr : RelaySound r) :
    (portRoleSelection r.system).portRoleSelectionState = .roleSelection ∧
      ∀ m, (r.record .portRoleSelection (portRoleSelection r.system)).relayed = some m →
        (portRoleSelection r.system).timeProperties = timePropertiesAt m ∧ Nonempty (Fin n) := by
  by_cases hreselect : Reselecting r.system
  · have hselects : Selects r.system .portRoleSelection := ⟨hr.selecting, hreselect⟩
    rw [portRoleSelection_of_selects hselects]
    refine ⟨(updtRolesTree_portRoleSelectionState (t := clearReselectTree r.system)).trans
      hr.selecting, fun m hm => ?_⟩
    have hm : ite _ _ _ = some m := hm
    rw [if_pos ⟨hr.selecting, hreselect⟩] at hm
    obtain ⟨i, hwinner, hadopted⟩ := Option.bind_eq_some_iff.mp hm
    refine ⟨?_, ⟨i⟩⟩
    -- the system takes over what the port that is selected has kept of its message
    have htaken := (updtRolesTree_takenOver (t := clearReselectTree r.system)).timeProperties
    rw [hwinner] at htaken
    exact htaken.trans (hr.adopted i m hadopted)
  · rw [portRoleSelection_of_not_reselecting hr.selecting hreselect]
    refine ⟨hr.selecting, fun m hm => ?_⟩
    have hm : ite _ _ _ = some m := hm
    rw [if_neg fun h => hreselect h.2] at hm
    exact ⟨hr.relayed m hm, hr.port m hm⟩

/-- **Every step keeps the history sound.** -/
theorem RelaySound.step (hr : RelaySound r) (h : relayStep bigEndian r input = some r') :
    RelaySound r' := by
  obtain ⟨t', ht', rfl⟩ := Option.map_eq_some_iff.mp h
  have hlength := step_pathTraceLength hr.length ht'
  -- what is neither a run of the machine nor a selection leaves the record alone
  have hother : ∀ hmachine : ∀ p, input ≠ .portAnnounceInformation p,
      input ≠ .portRoleSelection → (r.record input t').adopted = r.adopted →
      (r.record input t').relayed = r.relayed → RelaySound (r.record input t') := by
    intro hmachine hselection hadopted hrelayed
    obtain ⟨htime, hstate⟩ := step_timeProperties ht' hselection
    refine ⟨?_, fun i m hm => ?_, fun m hm => ?_, fun m hm => hr.port m (hrelayed ▸ hm), ?_⟩
    · rw [Relay.record_system, hstate, hr.selecting]
    · rw [Relay.record_system, step_port_timeProperties ht' (hmachine i)]
      exact hr.adopted i m (hadopted ▸ hm)
    · rw [Relay.record_system, htime]
      exact hr.relayed m (hrelayed ▸ hm)
    · rw [Relay.record_system]
      exact hlength
  cases input with
  | portAnnounceInformation p =>
    obtain ⟨htime, hstate⟩ := step_timeProperties ht' nofun
    exact ⟨hstate.trans hr.selecting, hr.adopted_machine ht',
      fun m hm => htime.trans (hr.relayed m hm), hr.port, hlength⟩
  | portRoleSelection =>
    obtain rfl := Option.some_inj.mp ht'
    obtain ⟨hstate, hrelayed⟩ := hr.relayed_selection
    refine ⟨hstate, fun i m hm => ?_, fun m hm => (hrelayed m hm).1, fun m hm => (hrelayed m hm).2,
      hlength⟩
    exact (step_port_timeProperties ht' nofun).trans (hr.adopted i m hm)
  | _ => exact hother (fun _ => nofun) nofun rfl rfl

/-! ### Along a run -/

variable {mac : Vector UInt8 6} {systemConfig : SystemConfig} {portConfig : Fin n → PortConfig}

/-- The machine is in its second state after its first turn. -/
theorem portRoleSelectionTurn_state :
    (portRoleSelectionTurn t).portRoleSelectionState = .roleSelection := by
  rw [portRoleSelectionTurn]
  split
  case h_1 => rfl
  case h_2 hstate =>
    split
    · exact (updtRolesTree_portRoleSelectionState (t := clearReselectTree t)).trans hstate
    · exact hstate

theorem gptpSwInit_portRoleSelectionState :
    (gptpSwInit mac (staticMemory systemConfig portConfig)).portRoleSelectionState =
      .roleSelection := by
  show (portRoleSelection (gptpSwReset mac (staticMemory systemConfig portConfig))).portRoleSelectionState = _
  rw [portRoleSelection]
  split <;> exact portRoleSelectionTurn_state

theorem relay_init_sound :
    RelaySound (Relay.init (gptpSwInit mac (staticMemory systemConfig portConfig))) where
  selecting := gptpSwInit_portRoleSelectionState
  adopted _ _ h := absurd h nofun
  relayed _ h := absurd h nofun
  port _ h := absurd h nofun
  length := gptpSwInit_localTrace.1.le.trans maxPathTrace_pos

/-- Every frame that the instance sends now says about the time what the message says whose
vector is the grandmaster's. -/
def RelaysTimeProperties (host : Host) (r : Relay n) : Prop :=
  ∀ m, r.relayed = some m → ∀ (clock : Clock) (tx tx' : AnnounceTx n) (p : Fin n),
    transmitAnnounce host clock r.system tx p = some tx' → SameTimeProperties m tx'.ptpTxBuf

theorem relaysTimeProperties_iff (hr : RelaySound r) :
    RelaysTimeProperties host r ↔ ∀ m, r.relayed = some m → NoHighFlags m := by
  refine forall_congr' fun m => forall_congr' fun hm => ?_
  have hiff : ∀ {clock : Clock} {tx tx' : AnnounceTx n} {p : Fin n},
      transmitAnnounce host clock r.system tx p = some tx' →
        (SameTimeProperties m tx'.ptpTxBuf ↔ NoHighFlags m) := fun hsent =>
    (transmitAnnounce_announces hsent).sameTimeProperties_iff (hr.relayed m hm)
  constructor
  · intro h
    obtain ⟨p⟩ := hr.port m hm
    obtain ⟨tx', hsent⟩ := Option.isSome_iff_exists.mp
      ((@transmitAnnounce_isSome_iff n host atBoot r.system
        (.swInit n (Vector.replicate 6 0) fun _ => 0) p).mpr hr.length)
    exact (hiff hsent).mp (h atBoot _ tx' p hsent)
  · intro h clock tx tx' p hsent
    exact (hiff hsent).mpr h

/-- **Time properties along a run.**  From `gptp_sw_init` on, what is sent always says about the
time what the message says whose vector is the grandmaster's, exactly if no such message sets
leap59, currentUtcOffsetValid, timeTraceable or frequencyTraceable. -/
theorem relays_along_iff (host : Host) (mac : Vector UInt8 6) (systemConfig : SystemConfig)
    (portConfig : Fin n → PortConfig) (inputs : List (Input n)) :
    Runs.Throughout (relayStep host.bigEndian) (RelaysTimeProperties host)
        (Relay.init (gptpSwInit mac (staticMemory systemConfig portConfig))) inputs ↔
      Runs.Throughout (relayStep host.bigEndian) (fun r => ∀ m, r.relayed = some m → NoHighFlags m)
        (Relay.init (gptpSwInit mac (staticMemory systemConfig portConfig))) inputs := by
  -- state by state; the history is sound in each of them
  refine forall_congr' fun pre => forall_congr' fun r => imp_congr_right fun _ =>
    forall_congr' fun hrun => relaysTimeProperties_iff ?_
  exact Runs.run_invariant RelaySound.step relay_init_sound hrun

/-! ### Flags that are lost -/

/-- A superior message that sets all flags. -/
def flaggedAnnounce : Mem := fun k =>
  if k = 47 then 100 else if k = 7 then 0x3F else if k = 20 ∨ k = 53 then 1 else 0

/-- It comes in on port 0, which becomes the slave port. -/
def flaggedReception : List (Input 2) := becomesSlave flaggedAnnounce

/-- **Four flags are lost.**  Of the message that is relayed, leap61 is still set in what port 1
sends, and nothing else. -/
theorem flags_lost :
    ¬ Runs.Throughout (relayStep true) (RelaysTimeProperties bigEndianHost)
        (Relay.init (gptpSwInit #v[0x00, 0x0A, 0x35, 0x00, 0x22, 0xFF]
          (staticMemory ⟨248, 248⟩ fun _ => ⟨3, 3⟩))) flaggedReception := by
  intro h
  have hrun : (Runs.run (relayStep true)
      (Relay.init (gptpSwInit #v[0x00, 0x0A, 0x35, 0x00, 0x22, 0xFF]
        (staticMemory ⟨248, 248⟩ fun _ => ⟨3, 3⟩))) flaggedReception).map
      (fun r => (r.relayed.map (fun m => m 7),
        (transmitAnnounce bigEndianHost atBoot r.system
          (.swInit 2 #v[0x00, 0x0A, 0x35, 0x00, 0x22, 0xFF] fun _ => 0) 1).map fun tx' =>
            tx'.ptpTxBuf 7)) =
      some (some 0x3F, some 0x09) := by
    decide +kernel
  obtain ⟨r, hr, heq⟩ := Option.map_eq_some_iff.mp hrun
  obtain ⟨hrelayed, hsent⟩ := Prod.mk.inj heq
  obtain ⟨m, hm, hm7⟩ := Option.map_eq_some_iff.mp hrelayed
  obtain ⟨tx', htx', htx7⟩ := Option.map_eq_some_iff.mp hsent
  have hsame := h flaggedReception r List.prefix_rfl hr m hm atBoot _ tx' 1 htx'
  have hleap := hsame.leap59
  rw [htx7, hm7] at hleap
  exact absurd hleap (by decide)

end Gptp
