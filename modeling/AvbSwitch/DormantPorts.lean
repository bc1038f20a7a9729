/-
Ports that never leave the state they start in.

`transmit_pdelay_request` records its request on the port behind the last one, so that no port of
the platform learns that it has sent a request.  MDPdelayReq then never waits for a response: it
sends its requests over and over.  A port is `asCapable` after initialisation only, until its
machine runs for the first time, and PortAnnounceInformation, which runs after it, never leaves
DISABLED.

* `Dormant` — what then holds of a port in every state;
* `bridgeStep_asleep` — what every call keeps;
* `asleep_of_run` — so that no run wakes a port;
* `ports_dormant` — in every run after initialisation no port takes another role, and no Announce,
  Sync or Follow_Up message is sent.
-/
import AvbSwitch.GptpBridge
import AvbSwitch.InformationAgeing
import AvbSwitch.PdelayHistory

open Octets

namespace Gptp

variable {n : ℕ} {host : Host} {clock : Clock} {t t' w : PdelaySystem} {q : UInt8} {i p : Fin n}
  {port port' : Port} {pp pp' : PdelayPort} {s : MDPdelayReqState} {l : Locals} {fuel : ℕ}
  {entries : List PdelayPort} {b b' u : Bridge n} {platform : BridgePlatform n}
  {input : BridgeInput n} {buf : Mem}

/-- MDPdelayReq does not wait for a response. -/
def Requesting (s : MDPdelayReqState) : Prop := s = .notEnabled ∨ s = .reset ∨ Sends s

/-- The variables of a port, as the announce machines and the peer delay mechanism have them. -/
structure Dormant (port : Port) (pp : PdelayPort) : Prop where
  role : port.selectedRole = .disabled
  infoIs : port.infoIs = .disabled
  announce : port.portAnnounceInformationState = .begin ∨
    port.portAnnounceInformationState = .disabled
  requesting : Requesting pp.mdPdelayReqState
  /-- nothing is known of a request -/
  unaware : pp.rcvdMDTimestampReceive = false
  incapable : pp.mdPdelayReqState ≠ .notEnabled → port.asCapable = false

/-! ### MDPdelayReq -/

/-- The states that the machine can enter from such a port. -/
theorem Dormant.next (h : Dormant port pp) (hs : Transition l pp s) :
    s = .initialSendPdelayReq ∨
      (s = .sendPdelayReq ∨ s = .reset) ∧ pp.mdPdelayReqState ≠ .notEnabled := by
  have hwaits : ∀ {s' : MDPdelayReqState}, ¬ Requesting s' → pp.mdPdelayReqState ≠ s' := by
    intro s' hs' heq
    exact hs' (heq ▸ h.requesting)
  cases hs with
  | enabled => exact Or.inl rfl
  | repeated hstate =>
    refine Or.inr ⟨Or.inl rfl, ?_⟩
    rw [hstate]
    exact MDPdelayReqState.noConfusion
  | sent hstate hreceive =>
    rw [h.unaware] at hreceive
    exact absurd hreceive Bool.false_ne_true
  | unsent hstate =>
    refine Or.inr ⟨Or.inr rfl, ?_⟩
    rcases hstate with hstate | hstate
    all_goals
      rw [hstate]
      exact MDPdelayReqState.noConfusion
  | unanswered hstate | answered hstate => exact absurd hstate (hwaits (by simp [Requesting, Sends]))
  | disturbed hstate | followedUp hstate =>
    exact absurd hstate (hwaits (by simp [Requesting, Sends]))
  | elapsed hstate => exact absurd hstate (hwaits (by simp [Requesting, Sends]))

/-- A verdict leaves the role, and the state of PortAnnounceInformation, alone. -/
theorem Dormant.of_verdict (h : Dormant port pp) (hport : SameButVerdict port port')
    (hrequesting : Requesting pp'.mdPdelayReqState) (hunaware : pp'.rcvdMDTimestampReceive = false)
    (hincapable : pp'.mdPdelayReqState ≠ .notEnabled → port'.asCapable = false) :
    Dormant port' pp' := by
  obtain ⟨verdict, rfl⟩ := hport
  exact ⟨h.role, h.infoIs, h.announce, hrequesting, hunaware, hincapable⟩

/-- **An entry action keeps the port dormant.** -/
theorem Dormant.setState (h : Dormant (t.ports q).toPort (t.ports q)) (h8 : q ≠ 8)
    (hs : s = .notEnabled ∨ Transition l (t.ports q) s) :
    Dormant ((mdPdelayReqSetState host clock t q s).ports q).toPort
      ((mdPdelayReqSetState host clock t q s).ports q) := by
  have hentry : Entry host q s (t.ports q) ((mdPdelayReqSetState host clock t q s).ports q) :=
    mdPdelayReqSetState_entry
  -- the states that come into question
  have hnext : s = .notEnabled ∨ s = .initialSendPdelayReq ∨
      (s = .sendPdelayReq ∨ s = .reset) ∧ (t.ports q).mdPdelayReqState ≠ .notEnabled :=
    hs.imp_right h.next
  have hcounts : EntryCounts s (t.ports q) ((mdPdelayReqSetState host clock t q s).ports q) := by
    refine mdPdelayReqSetState_counts fun hne hne' => ?_
    exact ((hnext.resolve_left hne).resolve_left hne').2
  have hcapable := hcounts.capable
  have hreceive := hentry.timestampReceive
  refine h.of_verdict mdPdelayReqSetState_leaves.self ?_ ?_ ?_
  · rw [hentry.state]
    rcases hnext with rfl | rfl | ⟨rfl | rfl, -⟩
    · exact Or.inl rfl
    · exact Or.inr (Or.inr (Or.inl rfl))
    · exact Or.inr (Or.inr (Or.inr rfl))
    · exact Or.inr (Or.inl rfl)
  · rw [hreceive, h.unaware]
    rcases hnext with rfl | rfl | ⟨rfl | rfl, -⟩
    · rfl
    · exact decide_eq_false h8
    · rw [timestampReceiveAfter, decide_eq_false h8, Bool.or_false]
    · rfl
  · intro hne
    rcases hnext with rfl | rfl | ⟨rfl | rfl, hstate⟩
    · exact absurd hentry.state hne
    · exact hcapable
    · exact hcapable.trans (h.incapable hstate)
    · rw [KeepsCapable, h.incapable hstate, Bool.false_and] at hcapable
      exact hcapable

theorem EntersFrom.dormant (h : EntersFrom host clock q t w s)
    (ht : Dormant (t.ports q).toPort (t.ports q)) (h8 : q ≠ 8) :
    Dormant ((mdPdelayReqSetState host clock w q s).ports q).toPort
      ((mdPdelayReqSetState host clock w q s).ports q) := by
  induction h with
  | disabled => exact ht.setState (l := Locals.of q (t.ports q)) h8 (Or.inl rfl)
  | first _ hnext => exact ht.setState h8 (Or.inr (mdPdelayReqNextState_eq_iff.mp hnext))
  | next _ _ hnext ih => exact ih.setState h8 (Or.inr (mdPdelayReqNextState_eq_iff.mp hnext))

/-- Where the machine rests in its first state, the port is not enabled. -/
theorem mdPdelayReqStateMachine_notEnabled (hp2p : t.delayMechanism = delayMechanismP2P)
    (h : mdPdelayReqStateMachine fuel host clock t q = some (w, entries))
    (hstate : (w.ports q).mdPdelayReqState = .notEnabled) :
    ((w.ports q).portEnabled && (w.ports q).pttPortEnabled) = false := by
  rw [mdPdelayReqStateMachine, if_neg (not_not.mpr hp2p)] at h
  cases hport : (t.ports q).portEnabled && (t.ports q).pttPortEnabled
  · rw [← Bool.not_and, hport, Bool.not_false, if_pos rfl] at h
    split at h
    · obtain ⟨rfl, -⟩ := Prod.mk.inj (Option.some_inj.mp h)
      simp only [mdPdelayReqSetState, PdelaySystem.modify_self]
      exact hport
    · obtain ⟨rfl, -⟩ := Prod.mk.inj (Option.some_inj.mp h)
      exact hport
  · rw [← Bool.not_and, hport, Bool.not_true, if_neg Bool.false_ne_true] at h
    have hrest := mdPdelayReqTurns_rest h
    rw [mdPdelayReqNextState, hstate] at hrest
    dsimp only at hrest
    cases henabled : (w.ports q).portEnabled && (w.ports q).pttPortEnabled
    · rfl
    · rw [henabled, if_pos rfl] at hrest
      cases hrest

/-- The machine keeps the port dormant. -/
theorem mdPdelayReqStateMachine_dormant (ht : Dormant (t.ports q).toPort (t.ports q)) (h8 : q ≠ 8)
    (h : mdPdelayReqStateMachine fuel host clock t q = some (w, entries)) :
    Dormant (w.ports q).toPort (w.ports q) := by
  obtain ⟨v, hv, hw⟩ := mdPdelayReqStateMachine_enters h
  have hv : Dormant (v.ports q).toPort (v.ports q) := by
    rcases hv with rfl | ⟨x, s, henters, rfl⟩
    · exact ht
    · exact henters.dormant ht h8
  rcases hw with rfl | rfl
  · exact hv
  · rw [PdelaySystem.modify_self]
    exact ⟨hv.role, hv.infoIs, hv.announce, hv.requesting, hv.unaware, hv.incapable⟩

/-- It leaves the port in a state in which it takes no part in the protocol. -/
theorem mdPdelayReqStateMachine_not_operational (ht : Dormant (t.ports q).toPort (t.ports q))
    (h8 : q ≠ 8) (hp2p : t.delayMechanism = delayMechanismP2P)
    (h : mdPdelayReqStateMachine fuel host clock t q = some (w, entries)) :
    (w.ports q).operational = false := by
  have hdormant := mdPdelayReqStateMachine_dormant ht h8 h
  by_cases hstate : (w.ports q).mdPdelayReqState = .notEnabled
  · rw [Port.operational, mdPdelayReqStateMachine_notEnabled hp2p h hstate, Bool.false_and]
  · rw [Port.operational, hdormant.incapable hstate, Bool.and_false]

/-! ### The other machines of a port -/

theorem Dormant.sameCounts (h : Dormant pp.toPort pp) (hport : SameButVerdict pp.toPort pp'.toPort)
    (hcounts : SameCounts pp pp')
    (hreceive : pp'.rcvdMDTimestampReceive = pp.rcvdMDTimestampReceive) : Dormant pp'.toPort pp' := by
  refine h.of_verdict hport ?_ (hreceive.trans h.unaware) fun hne => ?_
  · rw [hcounts.state]
    exact h.requesting
  · rw [hcounts.state] at hne
    exact hcounts.capable.trans (h.incapable hne)

theorem linkDelaySyncIntervalSettingStateMachine_receive
    (h : linkDelaySyncIntervalSettingStateMachine pp = some pp') :
    pp'.rcvdMDTimestampReceive = pp.rcvdMDTimestampReceive := by
  refine linkDelaySyncIntervalSettingStateMachine_keeps
    (R := fun pp pp' => pp'.rcvdMDTimestampReceive = pp.rcvdMDTimestampReceive) (fun _ => rfl)
    (fun hab hbc => hbc.trans hab) (fun pp st => ?_) h
  cases st <;> rfl

theorem linkDelaySyncIntervalSettingStateMachine_dormant (ht : Dormant pp.toPort pp)
    (h : linkDelaySyncIntervalSettingStateMachine pp = some pp') : Dormant pp'.toPort pp' :=
  ht.sameCounts (linkDelaySyncIntervalSettingStateMachine_leaves h)
    (linkDelaySyncIntervalSettingStateMachine_sameCounts h)
    (linkDelaySyncIntervalSettingStateMachine_receive h)

theorem linkDelaySyncIntervalSettingOn_eq (h : linkDelaySyncIntervalSettingOn t q = some t') :
    linkDelaySyncIntervalSettingStateMachine (t.ports q) = some (t'.ports q) ∧
      t'.delayMechanism = t.delayMechanism := by
  obtain ⟨pp, hpp, rfl⟩ := Option.map_eq_some_iff.mp h
  rw [PdelaySystem.modify_self]
  exact ⟨hpp, rfl⟩

theorem delayMachines_dormant (ht : Dormant (t.ports q).toPort (t.ports q)) (h8 : q ≠ 8)
    (hp2p : t.delayMechanism = delayMechanismP2P)
    (h : delayMachines fuel host clock t q = some t') :
    Dormant (t'.ports q).toPort (t'.ports q) ∧ (t'.ports q).operational = false := by
  obtain ⟨v, hv, h⟩ := Option.bind_eq_some_iff.mp h
  obtain ⟨⟨w, es⟩, hw, rfl⟩ := Option.map_eq_some_iff.mp h
  obtain ⟨hlink, hmechanism⟩ := linkDelaySyncIntervalSettingOn_eq hv
  have hdormant := linkDelaySyncIntervalSettingStateMachine_dormant ht hlink
  have hticked : Dormant ((v.modify q fun pp =>
      { pp with pdelayIntervalTimer := pp.pdelayIntervalTimer + 1 }).ports q).toPort
      ((v.modify q fun pp =>
        { pp with pdelayIntervalTimer := pp.pdelayIntervalTimer + 1 }).ports q) := by
    rw [PdelaySystem.modify_self]
    exact ⟨hdormant.role, hdormant.infoIs, hdormant.announce, hdormant.requesting,
      hdormant.unaware, hdormant.incapable⟩
  have hmechanism' : (v.modify q fun pp =>
      { pp with pdelayIntervalTimer := pp.pdelayIntervalTimer + 1 }).delayMechanism =
      delayMechanismP2P := hmechanism.trans hp2p
  exact ⟨mdPdelayReqStateMachine_dormant hticked h8 hw,
    mdPdelayReqStateMachine_not_operational hticked h8 hmechanism' hw⟩

/-- **PortAnnounceInformation leaves DISABLED** only on a port that takes part in the protocol. -/
theorem portAnnounceInformation_dormant {g g' : Gptpm n} (hg : Dormant (g.ports i) pp)
    (hop : (g.ports i).operational = false) (h : portAnnounceInformation g i = some g') :
    ∃ port, Dormant port pp ∧ g' = g.setPort i port := by
  obtain ⟨port, ⟨hdormant, -⟩, rfl⟩ := portAnnounceInformation_invariant
    (I := fun port => Dormant port pp ∧ port.operational = false)
    (fun {port port' s} hI hnext hset => by
      have hs : s = .disabled := by
        rw [nextState, hI.2, if_neg Bool.false_ne_true] at hnext
        split at hnext
        · cases hnext
        · exact (Option.some_inj.mp hnext).symm
      subst hs
      obtain rfl := Option.some_inj.mp hset
      exact ⟨⟨hI.1.role, rfl, Or.inr rfl, hI.1.requesting, hI.1.unaware, hI.1.incapable⟩, hI.2⟩)
    ⟨hg, hop⟩ h
  exact ⟨port, hdormant, rfl⟩

theorem portRoleSelectionTurn_dormant {g : Gptpm n} {pps : Fin n → PdelayPort}
    (hg : ∀ i, Dormant (g.ports i) (pps i)) (i : Fin n) :
    Dormant ((portRoleSelectionTurn g).ports i) (pps i) := by
  have hrole : ((portRoleSelectionTurn g).ports i).selectedRole = .disabled := by
    rw [portRoleSelectionTurn]
    split
    · rfl
    · split
      · -- a port without information has no other role
        have hinfo : ((updateGmPriority (computePaths (clearReselectTree g))).ports i).infoIs =
            .disabled := by
          rw [updateGmPriority_infoIs]
          exact (hg i).infoIs
        show ((updtRolesTree (clearReselectTree g)).ports i).selectedRole = .disabled
        rw [updtRolesTree_ports, assignRole]
        dsimp only
        rw [hinfo]
      · exact (hg i).role
  obtain ⟨selection, hselection⟩ := @portRoleSelectionTurn_selection n g i
  have hrole' : selection.selectedRole = .disabled := by
    rw [hselection] at hrole
    exact hrole
  rw [hselection]
  exact ⟨hrole', (hg i).infoIs, (hg i).announce, (hg i).requesting, (hg i).unaware,
    (hg i).incapable⟩

theorem portRoleSelection_dormant {g : Gptpm n} {pps : Fin n → PdelayPort}
    (hg : ∀ i, Dormant (g.ports i) (pps i)) (i : Fin n) :
    Dormant ((portRoleSelection g).ports i) (pps i) := by
  rw [portRoleSelection]
  split
  · exact portRoleSelectionTurn_dormant hg i
  · exact portRoleSelectionTurn_dormant (portRoleSelectionTurn_dormant hg) i

/-! ### The instance -/

/-- Every port is dormant, and nothing was sent. -/
structure Asleep (b : Bridge n) : Prop where
  ports : ∀ i, Dormant (b.vars.system.gptp.ports i) (b.pdelay.ports (portOctet i))
  /-- before initialisation there is no delay mechanism -/
  p2p : b.vars.adminEnabled = true → b.pdelay.delayMechanism = delayMechanismP2P
  sent : b.vars.sent = []

theorem Asleep.view (hb : Asleep b) (hn : n ≤ 8) (i : Fin n) :
    Dormant (b.pdelaySystem.ports (portOctet i)).toPort (b.pdelaySystem.ports (portOctet i)) := by
  rw [pdelaySystem_port hn]
  exact ⟨(hb.ports i).role, (hb.ports i).infoIs, (hb.ports i).announce, (hb.ports i).requesting,
    (hb.ports i).unaware, (hb.ports i).incapable⟩

/-- The variables of the module are others. -/
theorem Asleep.withVars (hb : Asleep b) {v : GptpModule n}
    (hports : ∀ i, Dormant (v.system.gptp.ports i) (b.pdelay.ports (portOctet i)))
    (hadmin : v.adminEnabled = b.vars.adminEnabled) (hsent : v.sent = b.vars.sent) :
    Asleep { b with vars := v } :=
  ⟨hports, fun h => hb.p2p (hadmin.symm.trans h), hsent.trans hb.sent⟩

/-- The peer delay mechanism has done something to port `p`. -/
theorem Asleep.takePdelay (hb : Asleep b) (hn : n ≤ 8) (p : Fin n)
    (hself : Dormant (t.ports (portOctet p)).toPort (t.ports (portOctet p)))
    (hothers : ∀ j, j ≠ p → t.ports (portOctet j) = b.pdelaySystem.ports (portOctet j))
    (hp2p : t.delayMechanism = b.pdelaySystem.delayMechanism) : Asleep (b.takePdelay t buf) := by
  refine ⟨fun i => ?_, fun hadmin => hp2p.trans (hb.p2p hadmin), hb.sent⟩
  show Dormant (t.ports (portOctet i)).toPort (t.ports (portOctet i))
  by_cases hi : i = p
  · rw [hi]
    exact hself
  · rw [hothers i hi]
    exact hb.view hn i

theorem mdPdelayReqSetState_delayMechanism :
    (mdPdelayReqSetState host clock t q s).delayMechanism = t.delayMechanism := by
  cases s <;> rfl

theorem EntersFrom.delayMechanism (h : EntersFrom host clock q t w s) :
    w.delayMechanism = t.delayMechanism := by
  induction h with
  | disabled | first => rfl
  | next _ _ _ ih => rw [mdPdelayReqSetState_delayMechanism, ih]

theorem mdPdelayReqStateMachine_delayMechanism
    (h : mdPdelayReqStateMachine fuel host clock t q = some (w, entries)) :
    w.delayMechanism = t.delayMechanism := by
  obtain ⟨v, hv, hw⟩ := mdPdelayReqStateMachine_enters h
  have hv : v.delayMechanism = t.delayMechanism := by
    rcases hv with rfl | ⟨x, s, henters, rfl⟩
    · rfl
    · rw [mdPdelayReqSetState_delayMechanism, henters.delayMechanism]
  rcases hw with rfl | rfl
  · exact hv
  · exact hv

/-- MDPdelayReq has run on port `p`, after `f` has changed the port. -/
theorem Asleep.mdPdelayReq (hb : Asleep b) (hn : n ≤ 8) {f : PdelayPort → PdelayPort}
    (hf : ∀ {pp : PdelayPort}, Dormant pp.toPort pp → Dormant (f pp).toPort (f pp))
    (h : mdPdelayReqStateMachine fuel host clock (b.pdelaySystem.modify (portOctet p) f)
      (portOctet p) = some (w, entries)) : Asleep (b.takePdelay w buf) := by
  have hstart : Dormant ((b.pdelaySystem.modify (portOctet p) f).ports (portOctet p)).toPort
      ((b.pdelaySystem.modify (portOctet p) f).ports (portOctet p)) := by
    rw [PdelaySystem.modify_self]
    exact hf (hb.view hn p)
  have hmechanism := mdPdelayReqStateMachine_delayMechanism h
  refine hb.takePdelay hn p (mdPdelayReqStateMachine_dormant hstart (portOctet_ne_eight hn) h)
    (fun j hj => ?_) hmechanism
  rw [(mdPdelayReqStateMachine_leaves h).2 _ (portOctet_ne hn hj) (portOctet_ne_eight hn),
    PdelaySystem.modify_of_ne (portOctet_ne hn hj)]

theorem Asleep.disable (hb : Asleep b) (hn : n ≤ 8) (p : Fin n) :
    Asleep (b.takePdelay (b.pdelaySystem.disable p) buf) := by
  refine hb.takePdelay hn p ?_ (fun j hj => PdelaySystem.modify_of_ne (portOctet_ne hn hj)) rfl
  have hport := hb.view hn p
  rw [PdelaySystem.disable, PdelaySystem.modify_self]
  exact ⟨hport.role, hport.infoIs, hport.announce, hport.requesting, hport.unaware,
    hport.incapable⟩

/-! ### The tick -/

/-- A port without a role sends nothing. -/
theorem transmitTurns_dormant {v : GptpModule n} {env : TickEnv n} {ticks : UInt32}
    {l : List (Fin n)} (hv : ∀ i, (v.system.gptp.ports i).selectedRole = .disabled) :
    l.foldlM (transmitTurn host env ticks) v = some v := by
  induction l with
  | nil => rfl
  | cons i l ih =>
    have hturn : transmitTurn host env ticks v i = some v := by
      rw [transmitTurn, hv i, if_neg PtpRole.noConfusion]
    rw [List.foldlM_cons, hturn]
    exact ih

theorem delayMachines_delayMechanism (h : delayMachines fuel host clock t q = some t') :
    t'.delayMechanism = t.delayMechanism := by
  obtain ⟨v, hv, h⟩ := Option.bind_eq_some_iff.mp h
  obtain ⟨⟨w, es⟩, hw, rfl⟩ := Option.map_eq_some_iff.mp h
  exact (mdPdelayReqStateMachine_delayMechanism hw).trans (linkDelaySyncIntervalSettingOn_eq hv).2

/-- One turn of the loop that runs the machines. -/
theorem bridgeMachineTurn_asleep (hn : n ≤ 8) {env : BridgeEnv n}
    (hb : Asleep b ∧ b.vars.adminEnabled = true) (h : bridgeMachineTurn host env b i = some b') :
    Asleep b' ∧ b'.vars.adminEnabled = true := by
  obtain ⟨hb, hadmin⟩ := hb
  obtain ⟨t, ht, h⟩ := Option.bind_eq_some_iff.mp h
  obtain ⟨g, hg, rfl⟩ := Option.map_eq_some_iff.mp h
  obtain ⟨hport, hop⟩ :=
    delayMachines_dormant (hb.view hn i) (portOctet_ne_eight hn) (hb.p2p hadmin) ht
  have htaken : Asleep (b.takePdelay t (env.ptpTxBuf i)) :=
    hb.takePdelay hn i hport
      (fun j hj => delayMachines_ports_of_ne ht (portOctet_ne hn hj) (portOctet_ne_eight hn))
      (delayMachines_delayMechanism ht)
  obtain ⟨port, hdormant, rfl⟩ := portAnnounceInformation_dormant (htaken.ports i) hop hg
  refine ⟨htaken.withVars (fun j => ?_) rfl rfl, hadmin⟩
  show Dormant (((b.takePdelay t (env.ptpTxBuf i)).vars.system.gptp.setPort i port).ports j) _
  by_cases hj : j = i
  · rw [hj, Gptpm.setPort_ports_self]
    exact hdormant
  · rw [Gptpm.setPort_ports_of_ne hj]
    exact htaken.ports j

theorem bridgeMoreWork_asleep (hn : n ≤ 8) {env : BridgeEnv n} (hb : Asleep b)
    (h : bridgeMoreWork host env b = some b') : Asleep b' := by
  rw [bridgeMoreWork] at h
  split at h
  · exact Option.some_inj.mp h ▸ hb
  · split at h
    case isTrue hadmin =>
      obtain ⟨v, hv, h⟩ := Option.bind_eq_some_iff.mp h
      obtain ⟨u, hu, rfl⟩ := Option.map_eq_some_iff.mp h
      have hselected : ∀ i, Dormant ((selectRoles b.vars.system.gptp).ports i)
          (b.pdelay.ports (portOctet i)) := by
        rw [selectRoles]
        split
        · exact portRoleSelection_dormant hb.ports
        · exact hb.ports
      rw [transmitTurns_dormant fun i => (hselected i).role] at hv
      obtain rfl := Option.some_inj.mp hv
      obtain ⟨hloop, -⟩ := Runs.run_invariant (bridgeMachineTurn_asleep hn)
        ⟨hb.withVars (v := { b.vars.withGptp (selectRoles b.vars.system.gptp) with
          timerTicks := 0 }) hselected rfl rfl, hadmin⟩ hu
      exact hloop.withVars (fun i => hloop.ports i) rfl rfl
    case isFalse => exact Option.some_inj.mp h ▸ hb.withVars hb.ports rfl rfl

theorem bridgeTick_asleep (hn : n ≤ 8) {env : BridgeEnv n} (hb : Asleep b)
    (h : bridgeTick host env b = some b') : Asleep b' := by
  have hfinish : ∀ {b b' : Bridge n}, Asleep b → bridgeFinishWork host env b = some b' →
      Asleep b' := by
    intro b b' hb h
    rw [bridgeFinishWork] at h
    split at h
    · exact bridgeMoreWork_asleep hn hb h
    · exact Option.some_inj.mp h ▸ hb
  obtain ⟨u, hu, h⟩ := Option.bind_eq_some_iff.mp h
  obtain ⟨v, hv, h⟩ := Option.bind_eq_some_iff.mp h
  have hu := hfinish hb hu
  have hv := hfinish (hu.withVars (v := { u.vars with timerTicks := u.vars.timerTicks + 1 })
    hu.ports rfl rfl) hv
  exact bridgeMoreWork_asleep hn
    (hv.withVars (v := { v.vars with currentSm := true }) hv.ports rfl rfl) h

/-! ### Calls and runs -/

/-- **Initialisation puts the ports to sleep**, whether or not they were. -/
theorem swInit_asleep (hn : n ≤ 8)
    (hports : ∀ i, Dormant (b.vars.system.gptp.ports i) (b.pdelay.ports (portOctet i)))
    (hsent : b.vars.sent = []) : Asleep (b.swInit platform) := by
  refine ⟨fun i => ?_, fun _ => rfl, hsent⟩
  have hi : (portOctet i).toNat < n := by
    rw [portOctet_toNat hn]
    exact i.isLt
  have hpdelay : (b.swInit platform).pdelay.ports (portOctet i) =
      (b.pdelay.ports (portOctet i)).swInit platform.mac platform.rxPhyMacDelay
        (b.delayConfig ⟨(portOctet i).toNat, hi⟩).initialLogSyncInterval
        (b.delayConfig ⟨(portOctet i).toNat, hi⟩).nbrPropDelayThresh (portOctet i) := by
    simp only [Bridge.swInit, dif_pos hi]
  have hreset : ∀ i, Dormant ((gptpSwReset platform.mac b.vars.system.gptp).ports i)
      ((b.swInit platform).pdelay.ports (portOctet i)) := by
    intro i
    have hi : (portOctet i).toNat < n := by
      rw [portOctet_toNat hn]
      exact i.isLt
    simp only [Bridge.swInit, dif_pos hi]
    exact ⟨(hports i).role, (hports i).infoIs, Or.inl rfl, Or.inl rfl, (hports i).unaware,
      fun hne => absurd rfl hne⟩
  have hselected := portRoleSelection_dormant hreset i
  exact ⟨hselected.role, hselected.infoIs, hselected.announce, hselected.requesting,
    hselected.unaware, hselected.incapable⟩

theorem init_asleep (hn : n ≤ 8) (hb : Asleep b) : Asleep (b.init platform) := by
  rw [Bridge.init]
  split
  · exact hb
  · exact swInit_asleep hn hb.ports hb.sent

theorem hwInit_asleep (hb : Asleep b) : Asleep (b.hwInit platform) := by
  refine ⟨fun i => ?_, hb.p2p, hb.sent⟩
  have hport := hb.ports i
  simp only [Bridge.hwInit]
  split
  · exact ⟨hport.role, hport.infoIs, hport.announce, hport.requesting, hport.unaware,
      hport.incapable⟩
  · exact hport

/-- No Follow_Up message is accepted, and so none is relayed. -/
theorem processRxFup_dormant {system : SyncSystem n} {clock : Fin n → Clock} {locals : SyncLocals}
    {currentSm : Bool} {m : Mem} (hrole : (system.gptp.ports p).selectedRole = .disabled) :
    processRxFup host clock locals currentSm system p m = some (system.withSource m, []) := by
  refine processRxFup_neg fun haccepts => ?_
  have hslave : (system.gptp.ports p).selectedRole = .slave := haccepts.1.1
  rw [hrole] at hslave
  cases hslave

theorem takePdelayResp_dormant (host : Host) (clock : Clock) (m : RxFrame) {pp : PdelayPort}
    (h : Dormant pp.toPort pp) :
    Dormant (takePdelayResp host clock m pp).toPort (takePdelayResp host clock m pp) :=
  ⟨h.role, h.infoIs, h.announce, h.requesting, h.unaware, h.incapable⟩

theorem takePdelayRespFup_dormant (m : RxFrame) {pp : PdelayPort} (h : Dormant pp.toPort pp) :
    Dormant (takePdelayRespFup m pp).toPort (takePdelayRespFup m pp) :=
  ⟨h.role, h.infoIs, h.announce, h.requesting, h.unaware, h.incapable⟩

theorem processRxSignaling_dormant (m : Mem) {pp pp' : PdelayPort} (h : Dormant pp.toPort pp)
    (hpp : processRxSignaling m pp = some pp') : Dormant pp'.toPort pp' := by
  have hreceived : Dormant
      { pp with rcvdSignalingPtr := m, rcvdSignalingMsg1 := true }.toPort
      { pp with rcvdSignalingPtr := m, rcvdSignalingMsg1 := true } :=
    ⟨h.role, h.infoIs, h.announce, h.requesting, h.unaware, h.incapable⟩
  exact linkDelaySyncIntervalSettingStateMachine_dormant hreceived hpp

/-- **Every call leaves the ports asleep.** -/
theorem bridgeStep_asleep (hn : n ≤ 8) (hb : Asleep b)
    (h : bridgeStep platform b input = some b') : Asleep b' := by
  cases input with
  | vtssGptpInit =>
    obtain rfl := Option.some_inj.mp h
    exact hwInit_asleep (init_asleep hn hb)
  | vtssGptpDeinit =>
    obtain rfl := Option.some_inj.mp h
    exact swInit_asleep hn hb.ports hb.sent
  | vtssGptpTick env => exact bridgeTick_asleep hn hb h
  | vtssGptpSetConfig config =>
    obtain rfl := Option.some_inj.mp h
    have hinit : Asleep (b.init platform) := init_asleep hn hb
    exact hinit.withVars hinit.ports rfl rfl
  | vtssGptpSetPortconfig env p config delayConfig =>
    obtain ⟨u, hu, rfl⟩ := Option.map_eq_some_iff.mp h
    have hinit : Asleep (b.init platform) := init_asleep hn hb
    have hu : Asleep u := by
      rw [bridgeFinishWork] at hu
      split at hu
      · exact bridgeMoreWork_asleep hn hinit hu
      · exact Option.some_inj.mp hu ▸ hinit
    refine ⟨fun i => ?_, hu.p2p, hu.sent⟩
    show Dormant ((u.vars.system.gptp.setPort p _).ports i) (u.pdelay.ports (portOctet i))
    by_cases hi : i = p
    · have hport := hu.ports p
      rw [hi, Gptpm.setPort_ports_self]
      exact ⟨hport.role, hport.infoIs, hport.announce, hport.requesting, hport.unaware,
        hport.incapable⟩
    · rw [Gptpm.setPort_ports_of_ne hi]
      exact hu.ports i
  | processRxAnnounce p m =>
    obtain ⟨g, hg, rfl⟩ := Option.map_eq_some_iff.mp h
    obtain ⟨-, hothers, rcvdMsg, hport⟩ := processRxAnnounce_eq hg
    refine hb.withVars (fun i => ?_) rfl rfl
    show Dormant (g.ports i) _
    by_cases hi : i = p
    · have hp := hb.ports p
      rw [hi, hport]
      exact ⟨hp.role, hp.infoIs, hp.announce, hp.requesting, hp.unaware, hp.incapable⟩
    · rw [hothers i hi]
      exact hb.ports i
  | processRxSync p clock locals m =>
    obtain rfl := Option.some_inj.mp h
    refine hb.withVars (fun i => ?_) rfl rfl
    show Dormant ((processRxSync platform.host clock locals b.vars.system p m).gptp.ports i) _
    rw [processRxSync_gptp]
    by_cases hi : i = p
    · have hp := hb.ports p
      rw [hi, Gptpm.setPort_ports_self]
      exact ⟨hp.role, hp.infoIs, hp.announce, hp.requesting, hp.unaware, hp.incapable⟩
    · rw [Gptpm.setPort_ports_of_ne hi]
      exact hb.ports i
  | processRxFup p clock locals m =>
    obtain ⟨r, hr, rfl⟩ := Option.map_eq_some_iff.mp h
    rw [processRxFup_dormant (hb.ports p).role] at hr
    obtain rfl := Option.some_inj.mp hr
    exact hb.withVars hb.ports rfl (List.append_nil _)
  | processRxPdelayReq p clock m =>
    obtain rfl := Option.some_inj.mp h
    have hasleep : ∀ (buf : Mem) {t : PdelaySystem}, t = b.pdelaySystem ∨
        t = b.pdelaySystem.disable p ∨ (∃ j : Fin n, t = (b.pdelaySystem.disable p).disable j) →
        Asleep (b.takePdelay t buf) := by
      intro buf t ht
      rcases ht with rfl | rfl | ⟨j, rfl⟩
      · exact hb.takePdelay hn p (hb.view hn p) (fun _ _ => rfl) rfl
      · exact hb.disable hn p
      · have hboth : Asleep ((b.takePdelay (b.pdelaySystem.disable p) buf).takePdelay
            ((b.takePdelay (b.pdelaySystem.disable p) buf).pdelaySystem.disable j) buf) :=
          (hb.disable hn p).disable hn j
        rw [pdelaySystem_takePdelay rfl] at hboth
        exact hboth
    obtain ⟨hports, hp2p, hsent⟩ :=
      hasleep (processRxPdelayReq platform.host clock b.responder (portOctet p) m).1.ptpTxBuf
        (@processRxPdelayReq_ports n platform.host clock b p hn m)
    exact ⟨hports, hp2p, hsent⟩
  | processRxPdelayResp p fuel clock m buf =>
    obtain ⟨⟨w, entries⟩, hw, rfl⟩ := Option.map_eq_some_iff.mp h
    exact hb.mdPdelayReq hn (takePdelayResp_dormant platform.host clock m) hw
  | processRxPdelayRespFup p fuel clock m buf =>
    obtain ⟨⟨w, entries⟩, hw, rfl⟩ := Option.map_eq_some_iff.mp h
    exact hb.mdPdelayReq hn (takePdelayRespFup_dormant m) hw
  | processRxSignaling p m =>
    obtain ⟨w, hw, rfl⟩ := Option.map_eq_some_iff.mp h
    obtain ⟨pp, hpp, rfl⟩ := Option.map_eq_some_iff.mp hw
    have hport := hb.view hn p
    refine hb.takePdelay hn p ?_ (fun j hj => PdelaySystem.modify_of_ne (portOctet_ne hn hj)) rfl
    rw [PdelaySystem.modify_self]
    exact processRxSignaling_dormant m hport hpp

theorem staticMemory_asleep {systemConfig : SystemConfig} {portConfig : Fin n → PortConfig}
    {delayConfig : Fin n → DelayConfig} {ptpTxBuf : Mem} :
    Asleep (Bridge.staticMemory systemConfig portConfig delayConfig ptpTxBuf) where
  ports _ := ⟨rfl, rfl, Or.inl rfl, Or.inl rfl, rfl, fun hne => absurd rfl hne⟩
  p2p hadmin := Bool.noConfusion hadmin
  sent := rfl

/-- **No run wakes a port**, whatever its first call. -/
theorem asleep_of_run {systemConfig : SystemConfig} {portConfig : Fin n → PortConfig}
    {delayConfig : Fin n → DelayConfig} {ptpTxBuf : Mem} {inputs : List (BridgeInput n)}
    (hn : n ≤ 8)
    (hrun : Runs.run (bridgeStep platform)
      (Bridge.staticMemory systemConfig portConfig delayConfig ptpTxBuf) inputs = some b') :
    Asleep b' :=
  Runs.run_invariant (bridgeStep_asleep hn) staticMemory_asleep hrun

/-- **No port wakes up.**  In every run from initialisation on, of up to eight ports, every port has
no role, PortAnnounceInformation is in DISABLED or has not run, MDPdelayReq does not wait for a
response, and neither an Announce nor a Sync or a Follow_Up message was sent.

The entry behind the eight ports, which is written in place of a port's own, is taken to lie in the
array: `VTSS_GPTP_MAX_PORTS` is above 8.  With eight entries the write is out of bounds. -/
theorem ports_dormant (platform : BridgePlatform n) (systemConfig : SystemConfig)
    (portConfig : Fin n → PortConfig) (delayConfig : Fin n → DelayConfig) (ptpTxBuf : Mem)
    (inputs : List (BridgeInput n)) (b' : Bridge n) (hn : n ≤ 8)
    (hrun : Runs.run (bridgeStep platform)
      (Bridge.staticMemory systemConfig portConfig delayConfig ptpTxBuf)
      (.vtssGptpInit :: inputs) = some b') :
    (∀ i, Dormant (b'.vars.system.gptp.ports i) (b'.pdelay.ports (portOctet i))) ∧
      b'.vars.sent = [] := by
  have hasleep : Asleep b' := asleep_of_run hn hrun
  exact ⟨hasleep.ports, hasleep.sent⟩

/-- The eight ports of the platform, one of which receives an Announce message. -/
theorem ports_dormant_eight :
    ∃ b', Runs.run (bridgeStep (bridgePlatform 8)) (unwrittenBridge 8)
        [.vtssGptpInit, .vtssGptpTick (bridgeEnv 8),
          .processRxAnnounce ⟨0, Nat.succ_pos 7⟩ fun _ => 0, .vtssGptpTick (bridgeEnv 8)] = some b' ∧
      b'.vars.sent = [] := by
  have hsome : (Runs.run (bridgeStep (bridgePlatform 8)) (unwrittenBridge 8)
      [.vtssGptpInit, .vtssGptpTick (bridgeEnv 8),
        .processRxAnnounce ⟨0, Nat.succ_pos 7⟩ fun _ => 0,
        .vtssGptpTick (bridgeEnv 8)]).isSome = true := by decide +kernel
  obtain ⟨b', hb'⟩ := Option.isSome_iff_exists.mp hsome
  exact ⟨b', hb', (ports_dormant _ _ _ _ _ _ b' (le_refl 8) hb').2⟩

end Gptp
