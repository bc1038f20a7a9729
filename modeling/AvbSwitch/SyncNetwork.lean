/-
Sync and Follow_Up messages in a network of systems of this program.

A Sync message carries the number 0 in place of the number of the port that sends it, or, of a system
that relays, the source of what it has received.  The vector of a slave port has the source of an
Announce message, which carries the number of its port, and ports are numbered from 1.  Sync and
Follow_Up messages are taken from the source of that vector only.

* `moduleStep_untimed` — a system that gets messages of the program only takes none of them, and
  sends messages of the same kind;
* `time_not_passed_on` — so in every run of the network no Sync and no Follow_Up message that was
  ever sent is one that any system takes, and no port ever has the time of a master.
-/
import AvbSwitch.AnnounceNetwork

open Octets

namespace Gptp

section System

variable {n : ℕ} {mac : Vector UInt8 6} {t t' : Gptpm n} {s s' u : GptpModule n} {p i : Fin n}
  {pp pp' : Port} {host : Host} {env : TickEnv n} {platform : Platform} {input : ModuleInput n}
  {ticks : UInt32} {m : Mem} {gmPresent : Bool} {masterStepsRemoved : UInt16}
  {st : PortAnnounceInformationState}

/-! ### The source of a message -/

/-- The source has the number of a port. -/
def PortIdentity.Numbered (source : PortIdentity) : Prop := source.portNumber.get ≠ 0

/-- A source of nothing but ones, that of a port without information. -/
theorem numbered_ones : (PriorityVector.memset 0xFF).sourcePortIdentity.Numbered := by
  intro h
  cases h

/-- An Announce message carries the number of its port. -/
theorem transmitAnnounce_numbered {clock : Clock} {tx tx' : AnnounceTx n}
    (hnumber : tx.usPortNumber p ≠ 0) (h : transmitAnnounce host clock t tx p = some tx') :
    (getSourcePortId tx'.ptpTxBuf).Numbered := by
  rw [(transmitAnnounce_announces h).source]
  show (Short.put (tx.usPortNumber p).toNat).get ≠ 0
  rw [Short.get_put (tx.usPortNumber p).toNat_lt]
  intro hzero
  exact hnumber (UInt16.toNat_inj.mp hzero)

/-- The number in a Sync message is 0, or that of the source that is relayed. -/
theorem syncHeader_portNumber {s : SyncSystem n} : shortAt (syncHeader host s p) 28 =
    if s.gptp.grandMaster then ⟨0, 0⟩ else s.rxSourcePortIdentity.portNumber := by
  have hgm := (announcedIdentity s.grandmasterIdentity).length_toList
  have hsource := s.rxSourcePortIdentity.clockIdentity.length_toList
  rw [syncHeader]
  by_cases hgrandMaster : s.gptp.grandMaster = true
  · rw [if_pos hgrandMaster, if_pos hgrandMaster]
    simp (disch := omega) only [shortAt_putList, shortAt_put, shortAt_put2]
    rfl
  · rw [if_neg hgrandMaster, if_neg hgrandMaster]
    simp (disch := omega) only [shortAt_put, shortAt_put2]
    -- the octets behind the identity of the clock
    have hholds : Holds (putList (put (put (fill s.ptpTxBuf 0 0 (34 + 42)) 1 2) 6 0x2) 20
        s.rxSourcePortIdentity.octets) 20 s.rxSourcePortIdentity.octets := holds_putList
    obtain ⟨-, hnumber⟩ := holds_append.mp hholds
    rw [hsource] at hnumber
    obtain ⟨hhi, hlo, -⟩ := hnumber
    exact congrArg₂ Short.mk hhi hlo

theorem syncFrame_portNumber {s : SyncSystem n} {presentTime : PtpTime} :
    shortAt (syncFrame host s p presentTime) 28 = shortAt (syncHeader host s p) 28 := by
  have htime := @putTimestamp_length host.bigEndian presentTime
  rw [syncFrame, ptpexOsTxFrame]
  simp (disch := omega) only [shortAt_putList, shortAt_put, shortAt_put2]

theorem followUpFrame_portNumber {s : SyncSystem n} {rtcTime presentTime : PtpTime} :
    shortAt (followUpFrame host rtcTime presentTime s m) 28 = shortAt m 28 := by
  have htime := @putTimestamp_length host.bigEndian s.rxPreciseOriginTimeStamp
  have hcorrection : ∀ m, shortAt (putCorrectionField host rtcTime presentTime s m) 28 =
      shortAt m 28 := by
    intro m
    rw [putCorrectionField]
    split
    · simp (disch := omega) only [shortAt_put]
    · rw [shortAt_putList]
      rw [putTimestamp_length]
      exact Or.inl (by omega)
  rw [followUpFrame, ptpexOsTxFrame]
  simp (disch := omega) only [shortAt_putList, shortAt_put, shortAt_put2, hcorrection]

/-- **What a Sync message and its Follow_Up message have for a number** is no number of a port, if
the source that is relayed has none. -/
theorem transmitSync_unnumbered {clock : Clock} {s : SyncSystem n}
    (hsource : ¬ s.rxSourcePortIdentity.Numbered) :
    ¬ (getSourcePortId (transmitSync host clock s p).2.1).Numbered ∧
      ¬ (getSourcePortId (transmitSync host clock s p).2.2).Numbered := by
  have hzero : ∀ s' : SyncSystem n, s'.rxSourcePortIdentity = s.rxSourcePortIdentity →
      (shortAt (syncHeader host s' p) 28).get = 0 := by
    intro s' hs'
    rw [syncHeader_portNumber]
    split
    · rfl
    · rw [hs']
      exact not_not.mp hsource
  let presentTime := getRtcTime host.bigEndian clock.timeSinceBoot clock.leftover
  let counted := s.modify p fun pp => { pp with syncSequenceId := pp.syncSequenceId + 1 }
  have hsync := @syncFrame_portNumber n p host counted presentTime
  refine ⟨not_not.mpr ?_, not_not.mpr ?_⟩
  · exact (congrArg Short.get hsync).trans (hzero _ rfl)
  · exact (congrArg Short.get (followUpFrame_portNumber.trans hsync)).trans (hzero _ rfl)

/-! ### What a system has been told -/

/-- The sources of what a port has received, and holds, have numbers. -/
structure Told (pp : Port) : Prop where
  portPriority : pp.infoIs = .received → pp.portPriority.sourcePortIdentity.Numbered
  messagePriority : pp.portAnnounceInformationState = .receive →
    pp.messagePriority.sourcePortIdentity.Numbered
  frame : ∀ m, pp.rcvdAnnouncePtr = some m → (getSourcePortId m).Numbered

/-- The entry actions only copy what the port has received. -/
theorem Told.setState (hpp : Told pp) (hnext : nextState gmPresent pp = some st)
    (hset : setState masterStepsRemoved p pp st = some pp') : Told pp' := by
  cases st <;> simp only [Gptp.setState, Option.some_inj, Option.map_eq_some_iff] at hset
  case superiorMasterPort =>
    obtain ⟨m, -, rfl⟩ := hset
    have hreceive : pp.portAnnounceInformationState = .receive := by
      rw [nextState] at hnext
      grind
    exact ⟨fun _ => hpp.messagePriority hreceive,
      fun h => PortAnnounceInformationState.noConfusion h, hpp.frame⟩
  case receive =>
    obtain ⟨m, hm, rfl⟩ := hset
    exact ⟨hpp.portPriority, fun _ => hpp.frame m hm, hpp.frame⟩
  case repeatedMasterPort | inferiorMasterOrOtherPort | current =>
    subst hset
    exact ⟨hpp.portPriority, fun h => PortAnnounceInformationState.noConfusion h, hpp.frame⟩
  case begin | disabled | aged | update =>
    subst hset
    exact ⟨fun h => InfoIs.noConfusion h, fun h => PortAnnounceInformationState.noConfusion h,
      hpp.frame⟩

theorem SameKnowledge.told (h : SameKnowledge pp pp') (hpp : Told pp) : Told pp' where
  portPriority hreceived := by
    rw [h.portPriority]
    exact hpp.portPriority (h.infoIs ▸ hreceived)
  messagePriority hstate := by
    rw [h.messagePriority]
    exact hpp.messagePriority (h.state ▸ hstate)
  frame m hm := hpp.frame m (h.rcvdAnnouncePtr ▸ hm)

/-- What holds of an instance all along: what a slave port follows has the number of a port. -/
structure NodeTold (t : Gptpm n) : Prop where
  selecting : t.portRoleSelectionState = .roleSelection
  ports : ∀ i, Told (t.ports i)
  slave : ∀ i, (t.ports i).selectedRole = .slave →
    t.gmPriorityVector.sourcePortIdentity.Numbered

theorem NodeTold.same (ht : NodeTold t)
    (hselecting : t'.portRoleSelectionState = t.portRoleSelectionState)
    (hgm : t'.gmPriorityVector = t.gmPriorityVector)
    (hports : ∀ i, SameKnowledge (t.ports i) (t'.ports i)) : NodeTold t' where
  selecting := hselecting.trans ht.selecting
  ports i := (hports i).told (ht.ports i)
  slave i hslave := by
    rw [hgm]
    exact ht.slave i ((hports i).selectedRole.symm.trans hslave)

/-- One port is written, but for its role. -/
theorem NodeTold.setPort (ht : NodeTold t) (hpp : Told pp)
    (hpath : pp.gmPathPriority = (t.ports p).gmPathPriority)
    (hrole : pp.selectedRole = (t.ports p).selectedRole) : NodeTold (t.setPort p pp) where
  selecting := ht.selecting
  ports i := by
    by_cases hi : i = p
    · rw [hi, Gptpm.setPort_ports_self]
      exact hpp
    · rw [Gptpm.setPort_ports_of_ne hi]
      exact ht.ports i
  slave i hslave := by
    rw [Gptpm.setPort_gmPriorityVector hpath]
    refine ht.slave i ?_
    by_cases hi : i = p
    · rw [hi, Gptpm.setPort_ports_self] at hslave
      rw [hi, ← hrole, hslave]
    · rwa [Gptpm.setPort_ports_of_ne hi] at hslave

/-- One port is written, but for what it has been told. -/
theorem NodeTold.setSame (ht : NodeTold t) (hsame : SameKnowledge (t.ports p) pp)
    (hpath : pp.gmPathPriority = (t.ports p).gmPathPriority) : NodeTold (t.setPort p pp) :=
  ht.setPort (hsame.told (ht.ports p)) hpath hsame.selectedRole

theorem NodeTold.machine (ht : NodeTold t) (h : portAnnounceInformation t p = some t') :
    NodeTold t' := by
  obtain ⟨pp, ⟨hpp, hpath, hrole⟩, rfl⟩ := portAnnounceInformation_invariant
    (I := fun q => Told q ∧
      q.gmPathPriority = (t.ports p).gmPathPriority ∧ q.selectedRole = (t.ports p).selectedRole)
    (fun hq hnext hset =>
      ⟨hq.1.setState hnext hset, (setState_selection hset).1.trans hq.2.1,
        (setState_selection hset).2.trans hq.2.2⟩)
    ⟨ht.ports p, rfl, rfl⟩ h
  exact ht.setPort hpp hpath hrole

/-- The path vector of a port that has received its information has the number of a port. -/
theorem gmPath_numbered (hport : (t.ports i).portPriority.sourcePortIdentity.Numbered) :
    (t.gmPath i).sourcePortIdentity.Numbered := by
  by_cases htimed : TimedOut t (t.ports i)
  · rw [gmPath_eq_of_timedOut htimed]
    exact numbered_ones
  · rw [gmPath_eq_of_not_timedOut htimed]
    exact hport

/-- A selection makes a port a slave only if it has received its information. -/
theorem NodeTold.select (ht : NodeTold t) : NodeTold (portRoleSelection t) := by
  by_cases hreselect : Reselecting t
  case neg =>
    rw [portRoleSelection_of_not_reselecting ht.selecting hreselect]
    exact ht
  have hinfo : ∀ i, SameInfo (t.ports i) ((portRoleSelection t).ports i) :=
    fun i => portRoleSelection_sameInfo
  have hselects : Selects t (Input.portRoleSelection : Input n) := ⟨ht.selecting, hreselect⟩
  rw [portRoleSelection_of_selects hselects] at hinfo ⊢
  refine ⟨?_, fun i => ⟨fun hreceived => ?_, fun hreceive => ?_, fun m hm => ?_⟩, fun i hslave => ?_⟩
  · exact updtRolesTree_portRoleSelectionState.trans ht.selecting
  · rw [(hinfo i).portPriority]
    exact (ht.ports i).portPriority ((hinfo i).infoIs.symm.trans hreceived)
  · have hmessage : ((updtRolesTree (clearReselectTree t)).ports i).messagePriority = _ :=
      updtRolesTree_messagePriority
    show ((updtRolesTree (clearReselectTree t)).ports i).messagePriority.sourcePortIdentity.Numbered
    rw [hmessage]
    exact (ht.ports i).messagePriority ((hinfo i).state.symm.trans hreceive)
  · exact (ht.ports i).frame m ((hinfo i).rcvdAnnouncePtr.symm.trans hm)
  · obtain ⟨hreceived, hwinner⟩ := updtRolesTree_slave_iff.mp hslave
    rw [setSelectedTree_gmPriorityVector, updtRolesTree_gmPriorityVector, hwinner]
    exact gmPath_numbered ((ht.ports i).portPriority hreceived)

/-- At initialisation no port has a role yet. -/
theorem afterFirstTurn_told (ht : ∀ i, Told (t.ports i)) : NodeTold (afterFirstTurn mac t) where
  selecting := rfl
  ports i := ⟨(ht i).portPriority, fun h => PortAnnounceInformationState.noConfusion h,
    (ht i).frame⟩
  slave _ hslave := PtpRole.noConfusion hslave

/-! ### What a system sends -/

/-- What holds of a system all along: its Announce messages, and what it has been told, have the
numbers of ports, and its Sync and Follow_Up messages have none.  No port has the time of a
master. -/
structure Untimed (s : GptpModule n) : Prop where
  node : NodeTold s.system.gptp
  usPortNumber : ∀ i, s.usPortNumber i ≠ 0
  source : ¬ s.system.rxSourcePortIdentity.Numbered
  announced : ∀ p m, .announce p m ∈ s.sent → (getSourcePortId m).Numbered
  synchronised : ∀ p frames, .sync p frames ∈ s.sent →
    ¬ (getSourcePortId frames.1).Numbered ∧ ¬ (getSourcePortId frames.2).Numbered
  untimed : ∀ i, (s.system.sync i).syncTimestampsValid = false

/-- Nothing else is written than the instance, counters and what the timestamps are. -/
theorem Untimed.same (hs : Untimed s) (hnode : NodeTold s'.system.gptp)
    (hnumber : s'.usPortNumber = s.usPortNumber)
    (hsource : s'.system.rxSourcePortIdentity = s.system.rxSourcePortIdentity)
    (hsent : s'.sent = s.sent)
    (hvalid : ∀ i, (s'.system.sync i).syncTimestampsValid =
      (s.system.sync i).syncTimestampsValid) : Untimed s' where
  node := hnode
  usPortNumber i := by
    rw [hnumber]
    exact hs.usPortNumber i
  source := by
    rw [hsource]
    exact hs.source
  announced p m hm := hs.announced p m (hsent ▸ hm)
  synchronised p frames hframes := hs.synchronised p frames (hsent ▸ hframes)
  untimed i := (hvalid i).trans (hs.untimed i)

/-- A port is written, but not whether its timestamps are valid. -/
theorem modify_syncTimestampsValid {sync : SyncSystem n} {f : SyncPort → SyncPort}
    (hf : (f (sync.sync p)).syncTimestampsValid = (sync.sync p).syncTimestampsValid) :
    ((sync.modify p f).sync i).syncTimestampsValid = (sync.sync i).syncTimestampsValid := by
  by_cases hi : i = p
  · rw [hi, SyncSystem.modify_self, hf]
  · rw [SyncSystem.modify_of_ne hi]

theorem transmitAnnounce_untimed {clock : Clock} (hs : Untimed s)
    (h : s.transmitAnnounce host clock i = some s') : Untimed s' := by
  obtain ⟨tx, htx, rfl⟩ := Option.map_eq_some_iff.mp h
  refine ⟨hs.node, hs.usPortNumber, hs.source, fun p m hm => ?_, fun p frames hframes => ?_,
    hs.untimed⟩
  · rcases List.mem_append.mp hm with hm | hm
    · exact hs.announced p m hm
    · obtain ⟨rfl, rfl⟩ := Transmission.announce.inj (List.mem_singleton.mp hm)
      have hnumber : s.announceTx.usPortNumber p ≠ 0 := hs.usPortNumber p
      exact transmitAnnounce_numbered hnumber htx
  · rcases List.mem_append.mp hframes with hframes | hframes
    · exact hs.synchronised p frames hframes
    · cases List.mem_singleton.mp hframes

theorem transmitSync_source {clock : Clock} {sync : SyncSystem n} :
    (transmitSync host clock sync i).1.rxSourcePortIdentity = sync.rxSourcePortIdentity := by
  rw [transmitSync]
  dsimp only
  split <;> rfl

theorem transmitSync_untimed {clock : Clock} (hs : Untimed s) :
    Untimed (s.transmitSync host clock i) where
  node := by
    show NodeTold (Gptp.transmitSync host clock s.system i).1.gptp
    rw [transmitSync_gptp]
    exact hs.node
  usPortNumber := hs.usPortNumber
  source := by
    show ¬ (Gptp.transmitSync host clock s.system i).1.rxSourcePortIdentity.Numbered
    rw [transmitSync_source]
    exact hs.source
  announced p m hm := by
    rcases List.mem_append.mp hm with hm | hm
    · exact hs.announced p m hm
    · cases List.mem_singleton.mp hm
  synchronised p frames hframes := by
    rcases List.mem_append.mp hframes with hframes | hframes
    · exact hs.synchronised p frames hframes
    · obtain ⟨rfl, rfl⟩ := Transmission.sync.inj (List.mem_singleton.mp hframes)
      exact transmitSync_unnumbered hs.source
  untimed j := by
    show ((Gptp.transmitSync host clock s.system i).1.sync j).syncTimestampsValid = false
    rw [transmitSync_sync, modify_syncTimestampsValid rfl]
    exact hs.untimed j

theorem announceTurn_untimed {clock : Clock} (hs : Untimed s)
    (h : announceTurn host clock ticks s i = some s') : Untimed s' := by
  rw [announceTurn] at h
  dsimp only at h
  split at h
  · have hnode : NodeTold (s.system.gptp.setPort i
        { s.system.gptp.ports i with newInfo := false }) :=
      hs.node.setSame ⟨⟨rfl, rfl, rfl, rfl, rfl⟩, rfl, rfl, rfl, rfl⟩ rfl
    refine transmitAnnounce_untimed ?_ h
    exact hs.same hnode rfl rfl rfl fun _ => rfl
  · obtain rfl := Option.some_inj.mp h
    exact hs.same hs.node rfl rfl rfl fun _ => rfl

theorem syncTurn_untimed {clock : Clock} (hs : Untimed s) :
    Untimed (syncTurn host clock ticks s i) := by
  rw [syncTurn]
  split
  · exact transmitSync_untimed (hs.same hs.node rfl rfl rfl fun _ => rfl)
  · exact hs.same hs.node rfl rfl rfl fun _ => rfl

theorem transmitTurn_untimed (hs : Untimed s) (h : transmitTurn host env ticks s i = some s') :
    Untimed s' := by
  rw [transmitTurn] at h
  split at h
  · obtain ⟨u, hu, rfl⟩ := Option.map_eq_some_iff.mp h
    exact syncTurn_untimed (announceTurn_untimed hs hu)
  · exact Option.some_inj.mp h ▸ hs

theorem machineTurn_untimed (hs : Untimed s) (h : machineTurn env s i = some s') :
    Untimed s' := by
  obtain ⟨t, ht, rfl⟩ := Option.map_eq_some_iff.mp h
  have hverdict : NodeTold (s.takeVerdict i (env.verdict i)).system.gptp :=
    hs.node.setSame ⟨⟨rfl, rfl, rfl, rfl, rfl⟩, rfl, rfl, rfl, rfl⟩ rfl
  exact hs.same (hverdict.machine ht) rfl rfl rfl fun _ => modify_syncTimestampsValid rfl

/-- **A tick** sends such messages only. -/
theorem vtssGptpTick_untimed (hsm : s.currentSm = false) (hs : Untimed s)
    (h : vtssGptpTick host env s = some s') : Untimed s' := by
  rw [vtssGptpTick_eq hsm, moreWork, Bool.not_true, if_neg Bool.false_ne_true] at h
  split at h
  · obtain ⟨u, hu, h⟩ := Option.bind_eq_some_iff.mp h
    obtain ⟨v, hv, rfl⟩ := Option.map_eq_some_iff.mp h
    have hselected : NodeTold (selectRoles s.system.gptp) := by
      rw [selectRoles]
      split
      · exact hs.node.select
      · exact hs.node
    have hu : Untimed u := by
      refine Runs.run_invariant transmitTurn_untimed ?_ hu
      exact hs.same hselected rfl rfl rfl fun _ => rfl
    have hv : Untimed v := Runs.run_invariant machineTurn_untimed hu hv
    have hnode : NodeTold { v.system.gptp with newMaster := false } :=
      hv.node.same rfl (gmPriorityVector_same rfl rfl rfl fun _ => rfl)
        fun _ => ⟨⟨rfl, rfl, rfl, rfl, rfl⟩, rfl, rfl, rfl, rfl⟩
    exact hv.same hnode rfl rfl rfl fun _ => rfl
  · obtain rfl := Option.some_inj.mp h
    exact hs.same hs.node rfl rfl rfl fun _ => rfl

/-! ### The other calls -/

/-- Initialisation numbers the ports from 1. -/
theorem swInit_untimed (hn : n < 2 ^ 16) {rxPhyMacDelay : PtpTime}
    (hports : ∀ i, Told (s.system.gptp.ports i))
    (hsource : ¬ s.system.rxSourcePortIdentity.Numbered)
    (hannounced : ∀ p m, .announce p m ∈ s.sent → (getSourcePortId m).Numbered)
    (hsynchronised : ∀ p frames, .sync p frames ∈ s.sent →
      ¬ (getSourcePortId frames.1).Numbered ∧ ¬ (getSourcePortId frames.2).Numbered) :
    Untimed (s.swInit mac rxPhyMacDelay) where
  node := by
    have hselected := (@afterFirstTurn_told n mac _ hports).select
    rw [← portRoleSelection_reset] at hselected
    exact hselected.same rfl (gmPriorityVector_same rfl rfl rfl fun _ => rfl)
      fun _ => ⟨⟨rfl, rfl, rfl, rfl, rfl⟩, rfl, rfl, rfl, rfl⟩
  usPortNumber i := by
    intro hzero
    have hnumber : (UInt16.ofNat (i + 1)).toNat = 0 := congrArg UInt16.toNat hzero
    have hi := i.isLt
    rw [UInt16.toNat_ofNat'] at hnumber
    omega
  source := hsource
  announced := hannounced
  synchronised := hsynchronised
  untimed _ := rfl

theorem gptpInit_untimed (hn : n < 2 ^ 16) (hs : Untimed s) : Untimed (gptpInit platform s) := by
  rw [gptpInit]
  split
  · exact hs
  · exact swInit_untimed hn hs.node.ports hs.source hs.announced hs.synchronised

/-- A message without the number of a port is not one from the master. -/
theorem Untimed.not_fromMaster (hs : Untimed s) (hm : ¬ (getSourcePortId m).Numbered) :
    ¬ FromMaster s.system p m := by
  rintro ⟨hslave, hsource⟩
  rw [hsource] at hm
  exact hm (hs.node.slave p hslave)

/-! ### Receptions -/

theorem processRxAnnounce_untimed (hm : (getSourcePortId m).Numbered) (hs : Untimed s)
    (h : moduleStep platform s (.processRxAnnounce p m) = some s') : Untimed s' := by
  obtain ⟨t', ht', rfl⟩ := Option.map_eq_some_iff.mp h
  obtain ⟨rcvdMsg, pathTrace, pathTraceLength, rfl⟩ := processRxAnnounce_eq_with ht'
  have hport := hs.node.ports p
  have htold : NodeTold (s.system.gptp.setPort p
      { s.system.gptp.ports p with rcvdAnnouncePtr := some m, rcvdMsg := rcvdMsg }) :=
    hs.node.setPort ⟨hport.portPriority, hport.messagePriority,
      fun m' hm' => Option.some_inj.mp hm' ▸ hm⟩ rfl rfl
  exact hs.same ⟨htold.selecting, htold.ports, htold.slave⟩ rfl rfl rfl fun _ => rfl

/-- A Sync message resets its counter, and that is all. -/
theorem processRxSync_untimed {clock : Clock} {locals : SyncLocals}
    (hm : ¬ (getSourcePortId m).Numbered) (hs : Untimed s)
    (h : moduleStep platform s (.processRxSync p clock locals m) = some s') : Untimed s' := by
  obtain rfl := Option.some_inj.mp h
  let counted := s.system.gptp.setPort p
    { s.system.gptp.ports p with syncTimeoutCounter := 0 }
  have hnode : NodeTold counted :=
    hs.node.setSame ⟨⟨rfl, rfl, rfl, rfl, rfl⟩, rfl, rfl, rfl, rfl⟩ rfl
  have hreset : Untimed (s.withGptp counted) := hs.same hnode rfl rfl rfl fun _ => rfl
  have hsync : processRxSync platform.host clock locals s.system p m =
      (s.withGptp counted).system := if_neg (hreset.not_fromMaster hm)
  rw [hsync]
  exact hreset

/-- Of a Follow_Up message only the source is kept. -/
theorem processRxFup_untimed {clock : Fin n → Clock} {locals : SyncLocals}
    (hm : ¬ (getSourcePortId m).Numbered) (hs : Untimed s)
    (h : moduleStep platform s (.processRxFup p clock locals m) = some s') : Untimed s' := by
  obtain ⟨⟨sync, sent⟩, hfup, rfl⟩ := Option.map_eq_some_iff.mp h
  rw [processRxFup_neg fun haccepts => hs.not_fromMaster hm haccepts.1] at hfup
  obtain ⟨rfl, rfl⟩ := Prod.mk.inj (Option.some_inj.mp hfup)
  refine ⟨hs.node, hs.usPortNumber, hm, ?_, ?_, hs.untimed⟩
  · intro q m' hm'
    rw [List.map_nil, List.append_nil] at hm'
    exact hs.announced q m' hm'
  · intro q frames hframes
    rw [List.map_nil, List.append_nil] at hframes
    exact hs.synchronised q frames hframes

/-! ### Messages -/

/-- A message of the network. -/
inductive Message
  | announce (frame : Mem)
  | sync (frame : Mem)
  | followUp (frame : Mem)

/-- Announce messages have the number of a port, and the others have none. -/
def Message.Usual : Message → Prop
  | .announce m => (getSourcePortId m).Numbered
  | .sync m | .followUp m => ¬ (getSourcePortId m).Numbered

/-- The message that an input brings in, and its port. -/
def ModuleInput.message : ModuleInput n → Option (Fin n × Message)
  | .processRxAnnounce p rxBuffer => some (p, .announce rxBuffer)
  | .processRxSync p _ _ rxBuffer => some (p, .sync rxBuffer)
  | .processRxFup p _ _ rxBuffer => some (p, .followUp rxBuffer)
  | _ => none

/-- What was sent on a port. -/
def GptpModule.messagesOn (s : GptpModule n) (p : Fin n) : Set Message
  | .announce m => .announce p m ∈ s.sent
  | .sync m => ∃ frames, .sync p frames ∈ s.sent ∧ frames.1 = m
  | .followUp m => ∃ frames, .sync p frames ∈ s.sent ∧ frames.2 = m

theorem Untimed.usual (hs : Untimed s) : ∀ x ∈ s.messagesOn p, x.Usual := by
  intro x hx
  cases x with
  | announce m => exact hs.announced p m hx
  | sync m =>
    obtain ⟨frames, hframes, rfl⟩ := hx
    exact (hs.synchronised p frames hframes).1
  | followUp m =>
    obtain ⟨frames, hframes, rfl⟩ := hx
    exact (hs.synchronised p frames hframes).2

/-- **A system that gets such messages takes no Sync and no Follow_Up message**, and sends such
messages. -/
theorem moduleStep_untimed (hn : n < 2 ^ 16) (hsm : s.currentSm = false) (hs : Untimed s)
    (hmessage : ∀ p x, input.message = some (p, x) → x.Usual)
    (h : moduleStep platform s input = some s') : Untimed s' := by
  cases input with
  | vtssGptpInit =>
    obtain rfl := Option.some_inj.mp h
    exact gptpInit_untimed hn hs
  | vtssGptpDeinit =>
    obtain rfl := Option.some_inj.mp h
    exact swInit_untimed hn hs.node.ports hs.source hs.announced hs.synchronised
  | vtssGptpTick env => exact vtssGptpTick_untimed hsm hs h
  | vtssGptpSetConfig config =>
    obtain rfl := Option.some_inj.mp h
    have hinit : Untimed (gptpInit platform s) := gptpInit_untimed hn hs
    have hnode : NodeTold { (gptpInit platform s).system.gptp with systemConfig := config } :=
      hinit.node.same rfl (gmPriorityVector_same rfl rfl rfl fun _ => rfl)
        fun _ => ⟨⟨rfl, rfl, rfl, rfl, rfl⟩, rfl, rfl, rfl, rfl⟩
    exact hinit.same hnode rfl rfl rfl fun _ => rfl
  | vtssGptpSetPortconfig env p config =>
    obtain ⟨u, hu, rfl⟩ := Option.map_eq_some_iff.mp h
    have hinit : Untimed (gptpInit platform s) := gptpInit_untimed hn hs
    have hcall : moduleStep platform s .vtssGptpInit = some (gptpInit platform s) := rfl
    rw [finishGptpWork, moduleStep_currentSm hsm hcall, if_neg Bool.false_ne_true] at hu
    obtain rfl := Option.some_inj.mp hu
    have hnode : NodeTold ((gptpInit platform s).setPortconfig p config).system.gptp :=
      hinit.node.setSame ⟨⟨rfl, rfl, rfl, rfl, rfl⟩, rfl, rfl, rfl, rfl⟩ rfl
    exact hinit.same hnode rfl rfl rfl fun _ => rfl
  | processRxAnnounce p m => exact processRxAnnounce_untimed (hmessage p (.announce m) rfl) hs h
  | processRxSync p clock locals m => exact processRxSync_untimed (hmessage p (.sync m) rfl) hs h
  | processRxFup p clock locals m => exact processRxFup_untimed (hmessage p (.followUp m) rfl) hs h
  | delayReception p verdict =>
    obtain rfl := Option.some_inj.mp h
    have hnode : NodeTold (s.takeVerdict p verdict).system.gptp :=
      hs.node.setSame ⟨⟨rfl, rfl, rfl, rfl, rfl⟩, rfl, rfl, rfl, rfl⟩ rfl
    exact hs.same hnode rfl rfl rfl fun _ => modify_syncTimestampsValid rfl

end System

/-! ### The network -/

section Network

variable {ι : Type*} {n : ι → ℕ}

/-- What happens in the network: a call of one of the systems, or a message comes in that another one
has sent.  Of a Sync message and its Follow_Up message, sent in one call, it is one or the other. -/
inductive SyncNetworkInput (n : ι → ℕ)
  | call (b : ι) (input : ModuleInput (n b))
  | deliver (c : Σ a, Fin (n a)) (k : ℕ) (d : Σ b, Fin (n b)) (followUp : Bool)
      (clock : Fin (n d.1) → Clock) (locals : SyncLocals)

/-- The port on which something is sent. -/
def Transmission.port {k : ℕ} : Transmission k → Fin k
  | .announce p _ => p
  | .sync p _ => p

/-- What was sent comes in on port `q`. -/
def Transmission.reception {k l : ℕ} (q : Fin l) (followUp : Bool) (clock : Fin l → Clock)
    (locals : SyncLocals) : Transmission k → ModuleInput l
  | .announce _ frame => .processRxAnnounce q frame
  | .sync _ frames =>
    if followUp then .processRxFup q clock locals frames.2
    else .processRxSync q (clock q) locals frames.1

variable {platform : ι → Platform} {joined : (Σ a, Fin (n a)) → (Σ a, Fin (n a)) → Prop}
  {s s' : ∀ a, GptpModule (n a)} {input : SyncNetworkInput n}

/-- The systems and the links as a network of nodes. -/
def syncNetwork (platform : ι → Platform)
    (joined : (Σ a, Fin (n a)) → (Σ a, Fin (n a)) → Prop) :
    Networks.Network ι Message (fun a => GptpModule (n a)) (fun a => ModuleInput (n a))
      fun a => Fin (n a) where
  step a := moduleStep (platform a)
  takes _ input := input.message
  sent _ s p := s.messagesOn p
  joined := joined

/-- What comes in was sent. -/
theorem reception_message {k l : ℕ} {q r : Fin l} {followUp : Bool} {clock : Fin l → Clock}
    {locals : SyncLocals} {x : Message} {u : GptpModule k} {sent : Transmission k}
    (hsent : sent ∈ u.sent)
    (hx : (sent.reception q followUp clock locals).message = some (r, x)) :
    r = q ∧ x ∈ u.messagesOn sent.port := by
  cases sent with
  | announce p m =>
    obtain ⟨rfl, rfl⟩ := Prod.mk.inj (Option.some_inj.mp hx)
    exact ⟨rfl, hsent⟩
  | sync p frames =>
    cases followUp with
    | true =>
      obtain ⟨rfl, rfl⟩ := Prod.mk.inj (Option.some_inj.mp hx)
      exact ⟨rfl, frames, hsent, rfl⟩
    | false =>
      obtain ⟨rfl, rfl⟩ := Prod.mk.inj (Option.some_inj.mp hx)
      exact ⟨rfl, frames, hsent, rfl⟩

theorem networkInit_untimed (hn : ∀ a, n a < 2 ^ 16) {systemConfig : ι → SystemConfig}
    {portConfig : ∀ a, Fin (n a) → PortConfig} {ptpTxBuf : ι → Mem} (a : ι) :
    Untimed (networkInit platform systemConfig portConfig ptpTxBuf a) := by
  have hzero : (⟨0, 0⟩ : Short).get = 0 := rfl
  refine swInit_untimed (hn a) (fun i => ⟨fun h => ?_, fun h => ?_, fun m h => ?_⟩)
    (fun h => h hzero) (fun p m h => ?_) fun p frames h => ?_
  · cases h
  · cases h
  · cases h
  · cases h
  · cases h

variable [DecidableEq ι]

/-- A step of the network.  What is delivered was sent on a port that is joined with this one. -/
def syncNetworkStep (platform : ι → Platform)
    (joined : (Σ a, Fin (n a)) → (Σ a, Fin (n a)) → Prop) [DecidableRel joined]
    (s : ∀ a, GptpModule (n a)) : SyncNetworkInput n → Option (∀ a, GptpModule (n a))
  | .call b input =>
    if input.message.isSome then none
    else (moduleStep (platform b) (s b) input).map (Function.update s b)
  | .deliver c k d followUp clock locals =>
    ((s c.1).sent[k]?).bind fun sent =>
      if sent.port = c.2 ∧ joined c d then
        (moduleStep (platform d.1) (s d.1) (sent.reception d.2 followUp clock locals)).map
          (Function.update s d.1)
      else none

/-- A step of the systems is one of the network of nodes. -/
theorem syncNetworkStep_step [DecidableRel joined]
    (h : syncNetworkStep platform joined s input = some s') :
    Networks.Step (syncNetwork platform joined) s s' := by
  cases input with
  | call b input =>
    rw [syncNetworkStep] at h
    split at h
    · cases h
    case isFalse hmessage =>
      obtain ⟨t, ht, rfl⟩ := Option.map_eq_some_iff.mp h
      refine @Networks.Step.node _ _ _ _ _ _ (syncNetwork platform joined) s b input t
        (fun q x hx => ?_) ht
      have hx : input.message = some (q, x) := hx
      exact absurd (hx ▸ rfl) hmessage
  | deliver c k d followUp clock locals =>
    obtain ⟨sent, hsent, h⟩ := Option.bind_eq_some_iff.mp h
    split at h
    case isTrue hjoined =>
      obtain ⟨t, ht, rfl⟩ := Option.map_eq_some_iff.mp h
      refine @Networks.Step.node _ _ _ _ _ _ (syncNetwork platform joined) s d.1
        (sent.reception d.2 followUp clock locals) t (fun q x hx => ?_) ht
      obtain ⟨rfl, hmem⟩ := reception_message (List.mem_of_getElem? hsent) hx
      refine ⟨c, hjoined.2, ?_⟩
      rw [← hjoined.1]
      exact hmem
    case isFalse => cases h

/-- Every system sends such messages, as long as the others do. -/
theorem steps_untimed (hn : ∀ a, n a < 2 ^ 16)
    (h : Networks.Steps (syncNetwork platform joined) s s')
    (hs : ∀ a, Untimed (s a) ∧ (s a).currentSm = false) :
    ∀ a, Untimed (s' a) ∧ (s' a).currentSm = false := by
  refine Networks.Steps.invariant (I := fun a (t : GptpModule (n a)) =>
    Untimed t ∧ t.currentSm = false) (M := fun _ => {x | x.Usual}) ?_ ?_ hs h
  · intro a t p ht x hx
    exact ht.1.usual x hx
  · intro a t input t' ht hmessage hstep
    refine ⟨moduleStep_untimed (hn a) ht.2 ht.1 (fun q x hx => ?_) hstep,
      moduleStep_currentSm ht.2 hstep⟩
    obtain ⟨c, -, hx⟩ := hmessage q x hx
    exact hx

/-- **Time is not passed on.**  In every run of the network no Sync and no Follow_Up message that a
system has ever sent is one that a port of any system takes, whatever port it comes to, and no port
has valid timestamps of a master. -/
theorem time_not_passed_on [DecidableRel joined] (hn : ∀ a, n a < 2 ^ 16)
    (systemConfig : ι → SystemConfig) (portConfig : ∀ a, Fin (n a) → PortConfig)
    (ptpTxBuf : ι → Mem) (inputs : List (SyncNetworkInput n))
    (hrun : Runs.run (syncNetworkStep platform joined)
      (networkInit platform systemConfig portConfig ptpTxBuf) inputs = some s') :
    (∀ a p frames, .sync p frames ∈ (s' a).sent → ∀ b q,
      ¬ FromMaster (s' b).system q frames.1 ∧ ¬ FromMaster (s' b).system q frames.2) ∧
      ∀ a p, ((s' a).system.sync p).syncTimestampsValid = false := by
  have hsteps : Networks.Steps (syncNetwork platform joined)
      (networkInit platform systemConfig portConfig ptpTxBuf) s' :=
    Runs.run_invariant (I := Networks.Steps (syncNetwork platform joined) _)
      (fun hsteps hstep => hsteps.tail (syncNetworkStep_step hstep)) Relation.ReflTransGen.refl hrun
  have huntimed := steps_untimed hn hsteps fun a => ⟨networkInit_untimed hn a, rfl⟩
  refine ⟨fun a p frames hframes b q => ?_, fun a => (huntimed a).1.untimed⟩
  obtain ⟨hsync, hfollowUp⟩ := (huntimed a).1.synchronised p frames hframes
  exact ⟨(huntimed b).1.not_fromMaster hsync, (huntimed b).1.not_fromMaster hfollowUp⟩

end Network

/-! ### An example -/

/-- It is a Sync message and its Follow_Up message that is sent. -/
def Transmission.isSync {k : ℕ} : Transmission k → Bool
  | .announce _ _ => false
  | .sync _ _ => true

/-- A tick in which all ports are capable. -/
def syncTick (place : Place) : SyncNetworkInput fun _ : Place => 2 :=
  .call place (.vtssGptpTick ⟨fun _ => atBoot, fun _ => atBoot, fun _ => capableVerdict⟩)

/-- What the system on the right has sent comes in on the one in the middle. -/
def syncDelivery (k : ℕ) (followUp : Bool) : SyncNetworkInput fun _ : Place => 2 :=
  .deliver ⟨.right, port0⟩ k ⟨.middle, port1⟩ followUp (fun _ => atBoot)
    ⟨⟨0, 0, 0⟩, ⟨0, 0, 0⟩, ⟨0, 0, 0⟩, Vector.replicate 4 0, 0⟩

/-- The system in the middle follows the one on the right, and hears its time. -/
def heardInVain : List (SyncNetworkInput fun _ : Place => 2) :=
  List.replicate 10 (syncTick .right) ++ [syncTick .middle, syncDelivery 0 false,
    syncTick .middle, syncTick .middle, syncDelivery 15 false, syncDelivery 15 true]

/-- It is a slave of the other one, and does not take the time from it. -/
theorem time_not_passed_on_inLine : ∃ s',
    Runs.run (syncNetworkStep placePlatform inLine) lineInit heardInVain = some s' ∧
      ((s' .middle).system.gptp.ports port1).selectedRole = .slave ∧
      ∃ p frames, .sync p frames ∈ (s' .right).sent ∧
        ¬ FromMaster (s' .middle).system port1 frames.1 := by
  have hrun : (Runs.run (syncNetworkStep placePlatform inLine) lineInit heardInVain).map
      (fun s => (((s .middle).system.gptp.ports port1).selectedRole,
        (s .right).sent.any Transmission.isSync)) = some (.slave, true) := by
    decide +kernel
  obtain ⟨s', hs', heq⟩ := Option.map_eq_some_iff.mp hrun
  obtain ⟨hslave, hany⟩ := Prod.mk.inj heq
  obtain ⟨x, hx, hsync⟩ := List.any_eq_true.mp hany
  cases x with
  | announce p m => cases hsync
  | sync p frames =>
    have htime := (time_not_passed_on (fun _ => by omega) _ _ _ heardInVain hs').1 .right p frames
      hx .middle port1
    exact ⟨s', hs', hslave, p, frames, hx, htime.1⟩

end Gptp
