/-
The initialisation of the MSRP module: `msrp_sw_init`.

Here the links between ports and participants are still to be made, so that they are kept
apart from the state of the module (`MrpApplication`); `none` is a null pointer.
`initialize_participant` reads through the port of its participant, and is not defined
where there is none.

* `msrpSwInit_one` — with one port, the links are right and `send_ptr` is null;
* `msrpSwInit_eq_none` — with two ports or more, the second participant has no port when
  it is initialised;
* `msrpSwInit_established_iff` — so that what every later operation relies on holds only if
  there is no port at all.
-/
import AvbSwitch.MsrpMad

namespace Msrp

open Octets

variable {n : ℕ}

/-- `struct vtss_mrp_application`. -/
structure MrpApplication (n : ℕ) where
  state : State n
  /-- `ports[i].participants` -/
  participants : Fin n → Option (Fin n)
  /-- `participants[i].port` -/
  port : Fin n → Option (Fin n)
  /-- `ports[i].port_macaddr` -/
  portMacaddr : Fin n → Vector UInt8 6

/-- What `memset` leaves of a port and its participant. -/
def Participant.zero : Participant where
  pointToPoint := false
  regFailures := 0
  machine _ := .zero
  leaveallState := .invalid
  joinTimer := ⟨false, 0⟩
  leaveTimer := ⟨false, 0⟩
  leaveallTimer := ⟨false, 0⟩
  leaveall := false
  sendBuf _ := 0
  sendPtr := none
  nextToProcess := 0

/-- `memset(MSRP, 0, sizeof(*MSRP))`.  The static tables are not part of `MSRP`. -/
def MrpApplication.memset (t : State n) : MrpApplication n where
  state := { t with ports := fun _ => .zero }
  participants _ := none
  port _ := none
  portMacaddr _ := Vector.replicate 6 0

/-- `srp_proper_dest_mac`. -/
def srpProperDestMac : Vector UInt8 6 := #v[0x01, 0x80, 0xC2, 0x00, 0x00, 0x0E]

/-- `AVB_SRP_ETHERTYPE`. -/
def avbSrpEthertype : ℕ := 0x22EA

/-- `configure_send_buffer`, for a participant of the port with the address `src`. -/
def configureSendBuffer (pp : Participant) (src addr : Vector UInt8 6) (etype : ℕ) : Participant :=
  { pp with sendBuf := put2 (putList (putList pp.sendBuf 0 addr.toList) 6 src.toList) 12 etype }

/-- What `initialize_participant` writes before it joins. -/
def initializedParticipant (pp : Participant) (src : Vector UInt8 6) : Participant :=
  let pp := { pp with
    joinTimer := { pp.joinTimer with running := false }
    leaveTimer := { pp.leaveTimer with running := false }
    leaveall := false
    nextToProcess := 0
    leaveallState := .P }
  let pp := configureSendBuffer pp src srpProperDestMac avbSrpEthertype
  let pp := { pp with leaveallTimer := { pp.leaveallTimer with timeout := mrpLeaveallTimerPeriod } }
  pp.setMachine .domainAttrSent { pp.machine .domainAttrSent with
    attributeType := .domainVector
    isDomainAttr := true
    appState := .VO
    attrDir := .dec }

/-- A state in which the participant `p` works for the port `q`. -/
def State.linked (t : State n) (p q : Fin n) : State n :=
  t.setPort p { t.ports p with pointToPoint := (t.ports q).pointToPoint }

/-- `initialize_participant`. -/
def initializeParticipant (env : Env n) (g : MrpApplication n) (p : Fin n) :
    Option (MrpApplication n) :=
  (g.port p).bind fun q =>
    let t := g.state.setPort p (initializedParticipant (g.state.ports p) (g.portMacaddr q))
    (msrpMadJoinReq env (t.linked p q) p .domainAttrSent true).map fun t' =>
      { g with state := t'.setPort p { t'.ports p with pointToPoint := (t.ports p).pointToPoint } }

/-- One turn of the loop of `msrp_sw_init`.  `MSRP->participants->port` is the port of the
first participant, whichever port it is the turn of. -/
def initPort (env : Env n) (g : MrpApplication n) (pix : Fin n) : Option (MrpApplication n) :=
  initializeParticipant env
    { g with
      participants := Function.update g.participants pix (some pix)
      port := Function.update g.port ⟨0, pix.pos⟩ (some pix) } pix

/-- `msrp_sw_init`. -/
def msrpSwInit (env : Env n) (t : State n) : Option (MrpApplication n) :=
  (List.finRange n).foldlM (initPort env) (.memset t)

/-- `mrp_pdu_empty`. -/
def mrpPduEmpty (pp : Participant) : Bool := pp.sendPtr = some firstMsg

/-- What every later operation relies on: ports and participants point to each other, and
every send buffer is empty. -/
def MrpApplication.Established (g : MrpApplication n) : Prop :=
  ∀ pix, g.participants pix = some pix ∧ g.port pix = some pix ∧
    mrpPduEmpty (g.state.ports pix) = true

/-! ### One participant -/

variable {env : Env n} {t t' : State n} {g g' : MrpApplication n} {p q : Fin n} {ref : MachineRef}

theorem mrpReqTxOpportunity_sendPtr :
    ((mrpReqTxOpportunity t p).ports q).sendPtr = (t.ports q).sendPtr := by
  rw [mrpReqTxOpportunity]
  split
  · rfl
  · by_cases hq : q = p
    · rw [hq, State.setPort_ports_self]
    · rw [State.setPort_ports_of_ne hq]

theorem setAppState_sendPtr {s : ApplicantState} :
    ((t.setAppState p ref s).ports q).sendPtr = (t.ports q).sendPtr := by
  rw [State.setAppState, State.setMachine]
  by_cases hq : q = p
  · rw [hq, State.setPort_ports_self]
    rfl
  · rw [State.setPort_ports_of_ne hq]

/-- A very anxious observer that is to declare something new asks for an opportunity to send
it, but does not send yet. -/
theorem msrpMadJoinReq_new (env : Env n) (hstate : (t.machine p ref).appState = .VO) :
    ∃ t', msrpMadJoinReq env t p ref true = some t' ∧
      ∀ q, (t'.ports q).sendPtr = (t.ports q).sendPtr := by
  have hentry : applicantEntry .VO .new = ⟨.VN, Action.reqTx⟩ := rfl
  have htrans : applicantTrans (t.ports p).pointToPoint (t.machine p ref) .new =
      some ⟨.VN, Action.reqTx⟩ := by
    simp [applicantTrans, hstate, hentry]
  have hsent : ∀ registered, sentEvent registered Action.reqTx = none := by decide
  simp only [msrpMadJoinReq, if_true, declarationEvent, applicant, State.record_machine,
    State.record_ports, htrans, hsent]
  split
  · exact ⟨_, rfl, fun q => setAppState_sendPtr⟩
  · refine ⟨_, rfl, fun q => ?_⟩
    rw [setAppState_sendPtr, if_pos (by decide), mrpReqTxOpportunity_sendPtr, State.record_ports]

/-- The participant is initialised if it has a port; the links stay, and no `send_ptr` is
set. -/
theorem initializeParticipant_of_port (env : Env n) (hport : g.port p = some q) :
    ∃ t', initializeParticipant env g p = some { g with state := t' } ∧
      ∀ r, (t'.ports r).sendPtr = (g.state.ports r).sendPtr := by
  set t := g.state.setPort p (initializedParticipant (g.state.ports p) (g.portMacaddr q)) with ht
  have hstate : ((t.linked p q).machine p .domainAttrSent).appState = .VO := by
    rw [State.machine, State.linked, State.setPort_ports_self, ht, State.setPort_ports_self]
    rfl
  obtain ⟨t', hjoin, hptr⟩ := msrpMadJoinReq_new env hstate
  refine ⟨t'.setPort p { t'.ports p with pointToPoint := (t.ports p).pointToPoint }, ?_,
    fun r => ?_⟩
  · rw [initializeParticipant, hport, Option.bind_some]
    show (msrpMadJoinReq env (t.linked p q) p .domainAttrSent true).map _ = _
    rw [hjoin, Option.map_some]
  · by_cases hr : r = p
    · rw [hr, State.setPort_ports_self]
      show (t'.ports p).sendPtr = _
      rw [hptr, State.linked, State.setPort_ports_self, ht, State.setPort_ports_self]
      rfl
    · rw [State.setPort_ports_of_ne hr, hptr, State.linked, State.setPort_ports_of_ne hr, ht,
        State.setPort_ports_of_ne hr]

theorem initializeParticipant_of_no_port (hport : g.port p = none) :
    initializeParticipant env g p = none := by
  rw [initializeParticipant, hport, Option.bind_none]

/-! ### All participants -/

/-- The first participant has just been given its port. -/
theorem initPort_first (env : Env n) (g : MrpApplication n) (hp : p.val = 0) :
    ∃ g', initPort env g p = some g' ∧ g'.participants p = some p ∧ g'.port p = some p ∧
      (∀ q, q ≠ p → g'.port q = g.port q) ∧
      ∀ q, (g'.state.ports q).sendPtr = (g.state.ports q).sendPtr := by
  have hfirst : (⟨0, p.pos⟩ : Fin n) = p := Fin.ext hp.symm
  have hport : Function.update g.port p (some p) p = some p := Function.update_self p _ _
  rw [initPort, hfirst]
  obtain ⟨t', ht', hptr⟩ := initializeParticipant_of_port env (g := { g with
    participants := Function.update g.participants p (some p)
    port := Function.update g.port p (some p) }) hport
  exact ⟨_, ht', Function.update_self p _ _, hport, fun q hq => Function.update_of_ne hq _ _, hptr⟩

/-- Every other participant is still without a port. -/
theorem initPort_other (hp : p.val ≠ 0) (hport : g.port p = none) : initPort env g p = none := by
  refine initializeParticipant_of_no_port ?_
  have hne : p ≠ ⟨0, p.pos⟩ := fun h => hp (congrArg Fin.val h)
  exact (Function.update_of_ne hne ..).trans hport

/-- With one port the links are right, but `send_ptr` is null. -/
theorem msrpSwInit_one (env : Env 1) (t : State 1) :
    ∃ g, msrpSwInit env t = some g ∧ g.participants 0 = some 0 ∧ g.port 0 = some 0 ∧
      (g.state.ports 0).sendPtr = none := by
  obtain ⟨g, hinit, hparticipants, hport, -, hptr⟩ :=
    initPort_first env (.memset t) (p := 0) rfl
  have hrun : msrpSwInit env t = initPort env (.memset t) 0 :=
    (List.foldlM_cons (m := Option) ..).trans (Option.bind_fun_some _)
  exact ⟨g, hrun.trans hinit, hparticipants, hport, hptr 0⟩

/-- With two ports or more, the second participant is initialised without a port. -/
theorem msrpSwInit_eq_none (env : Env (n + 2)) (t : State (n + 2)) : msrpSwInit env t = none := by
  obtain ⟨g, hinit, -, -, hport, -⟩ := initPort_first env (.memset t) (p := 0) rfl
  have hnone : g.port 1 = none := hport 1 (Fin.succ_ne_zero (0 : Fin (n + 1)))
  have hsecond : initPort env g 1 = none := initPort_other (Nat.succ_ne_zero 0) hnone
  rw [msrpSwInit, List.finRange_succ, List.finRange_succ, List.map_cons]
  rw [List.foldlM_cons, hinit, Option.bind_eq_bind, Option.bind_some]
  rw [List.foldlM_cons, Fin.succ_zero_eq_one, hsecond, Option.bind_eq_bind, Option.bind_none]

/-- **Initialisation establishes its links only where there is nothing to link.** -/
theorem msrpSwInit_established_iff (env : Env n) (t : State n) :
    (∃ g, msrpSwInit env t = some g ∧ g.Established) ↔ n = 0 := by
  match n with
  | 0 => exact ⟨fun _ => rfl, fun _ => ⟨_, rfl, fun pix => pix.elim0⟩⟩
  | 1 =>
    refine ⟨fun ⟨g, hg, hestablished⟩ => ?_, nofun⟩
    obtain ⟨g', hg', -, -, hptr⟩ := msrpSwInit_one env t
    obtain rfl := Option.some_inj.mp (hg.symm.trans hg')
    have hempty := (hestablished 0).2.2
    rw [mrpPduEmpty, hptr] at hempty
    exact absurd hempty (by decide)
  | m + 2 =>
    refine ⟨fun ⟨g, hg, _⟩ => ?_, nofun⟩
    exact absurd ((msrpSwInit_eq_none env t).symm.trans hg) nofun

/-- Neither one port nor eight are initialised as they should be. -/
theorem msrpSwInit_not_established :
    (¬ ∃ g, msrpSwInit (n := 1) ⟨true, fun _ _ => false⟩ (.idle 1) = some g ∧ g.Established) ∧
      ¬ ∃ g, msrpSwInit (n := 8) ⟨true, fun _ _ => false⟩ (.idle 8) = some g ∧ g.Established := by
  refine ⟨fun ⟨g, hg, hestablished⟩ => ?_, fun ⟨g, hg, _⟩ => ?_⟩
  · obtain ⟨g', hg', -, -, hptr⟩ := msrpSwInit_one ⟨true, fun _ _ => false⟩ (.idle 1)
    obtain rfl := Option.some_inj.mp (hg.symm.trans hg')
    have hempty := (hestablished 0).2.2
    rw [mrpPduEmpty, hptr] at hempty
    exact absurd hempty (by decide)
  · exact absurd ((msrpSwInit_eq_none _ _).symm.trans hg) nofun

end Msrp
