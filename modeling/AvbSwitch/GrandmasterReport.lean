/-
The record of the grandmaster: `ptp_events_tx_gm_change`.

A selection that changes the vector of the grandmaster is noted in `newMaster`.  At the end of the
same tick `vtss_gptp_more_work` takes the note back and writes the record, from which the rest of the
program is to learn who the grandmaster is.  What it does to the clock is `ackGrandmasterChange`.

* `reportStep_vars` — the module is what it is without the record;
* `grandmaster_reported` — after every tick of every run the record is the grandmaster's, but for the
  number of hops, which is that of the tick in which it was written.
-/
import AvbSwitch.AnnounceNetwork
import AvbSwitch.AnnounceWindow
import AvbSwitch.SelectionResult

open Octets

namespace Gptp

variable {n : ℕ}

/-! ### The record -/

/-- `vtss_gptp_system_properties_t`, as far as it is written for a new grandmaster. -/
structure MasterRecord where
  grandmasterPriority1 : UInt8
  clockClass : UInt8
  clockAccuracy : UInt8
  offsetScaledLogVariance : UInt16
  grandmasterPriority2 : UInt8
  grandmasterIdentity : ClockIdentity
  masterStepsRemoved : UInt16
  localClockIdentity : ClockIdentity
  deriving DecidableEq

/-- What `ptp_events_tx_gm_change` writes. -/
def GptpModule.masterRecord (s : GptpModule n) : MasterRecord :=
  let root := s.system.gptp.gmPriorityVector.rootSystemIdentity
  { grandmasterPriority1 := root.priority1
    clockClass := root.clockClass
    clockAccuracy := root.clockAccuracy
    offsetScaledLogVariance := UInt16.ofNat root.offsetScaledLogVariance.get
    grandmasterPriority2 := root.priority2
    grandmasterIdentity := root.clockIdentity
    masterStepsRemoved := s.system.gptp.masterStepsRemoved
    localClockIdentity := s.system.grandmasterIdentity }

/-- The variables of the module, and `new_master`. -/
structure Reporting (n : ℕ) where
  vars : GptpModule n
  newMaster : MasterRecord

/-- `vtss_gptp_more_work`. -/
def reportMoreWork (host : Host) (env : TickEnv n) (r : Reporting n) : Option (Reporting n) :=
  let s := r.vars
  if !s.currentSm then some r
  else if s.adminEnabled then
    let timerTicks := s.timerTicks
    let s := { s.withGptp (selectRoles s.system.gptp) with timerTicks := 0 }
    ((List.finRange n).foldlM (transmitTurn host env timerTicks) s).bind fun s =>
      ((List.finRange n).foldlM (machineTurn env) s).map fun s =>
        let newMaster := s.system.gptp.newMaster
        let s := s.withGptp { s.system.gptp with newMaster := false }
        { vars := { s with currentSm := false }
          newMaster := if newMaster then s.masterRecord else r.newMaster }
  else some { r with vars := { s with currentSm := false } }

/-- `finish_gptp_work`. -/
def reportFinishWork (host : Host) (env : TickEnv n) (r : Reporting n) : Option (Reporting n) :=
  if r.vars.currentSm then reportMoreWork host env r else some r

/-- `GPTP_machine_update`. -/
def reportMachineUpdate (host : Host) (env : TickEnv n) (r : Reporting n) : Option (Reporting n) :=
  (reportFinishWork host env r).bind fun r =>
    reportMoreWork host env { r with vars := { r.vars with currentSm := true } }

/-- `vtss_gptp_tick`. -/
def reportTick (host : Host) (env : TickEnv n) (r : Reporting n) : Option (Reporting n) :=
  (reportFinishWork host env r).bind fun r =>
    reportMachineUpdate host env
      { r with vars := { r.vars with timerTicks := r.vars.timerTicks + 1 } }

/-- A call of the module; the record is written by the worker only. -/
def reportStep (platform : Platform) (r : Reporting n) : ModuleInput n → Option (Reporting n)
  | .vtssGptpTick env => reportTick platform.host env r
  | .vtssGptpSetPortconfig env p config =>
    (reportFinishWork platform.host env { r with vars := gptpInit platform r.vars }).map fun r =>
      { r with vars := r.vars.setPortconfig p config }
  | input => (moduleStep platform r.vars input).map fun s => { r with vars := s }

variable {platform : Platform} {host : Host} {env : TickEnv n} {r r' : Reporting n}
  {s s' u : GptpModule n} {input : ModuleInput n} {p i : Fin n} {t t' : Gptpm n}

/-! ### The module -/

/-- What comes next is the same, too. -/
theorem bind_vars {x : Option (Reporting n)} {y : Option (GptpModule n)}
    {f : Reporting n → Option (Reporting n)} {g : GptpModule n → Option (GptpModule n)}
    (hx : x.map Reporting.vars = y) (hf : ∀ r, (f r).map Reporting.vars = g r.vars) :
    (x.bind f).map Reporting.vars = y.bind g := by
  subst hx
  cases x with
  | none => rfl
  | some r => exact hf r

theorem reportMoreWork_vars :
    (reportMoreWork host env r).map Reporting.vars = moreWork host env r.vars := by
  rw [reportMoreWork, moreWork]
  dsimp only
  split
  · rfl
  split
  · rw [Option.map_bind]
    refine Option.bind_congr fun u _ => ?_
    rw [Function.comp_apply, Option.map_map]
    rfl
  · rfl

theorem reportFinishWork_vars :
    (reportFinishWork host env r).map Reporting.vars = finishGptpWork host env r.vars := by
  rw [reportFinishWork, finishGptpWork]
  split
  · exact reportMoreWork_vars
  · rfl

theorem reportTick_vars :
    (reportTick host env r).map Reporting.vars = vtssGptpTick host env r.vars :=
  bind_vars reportFinishWork_vars fun _ => bind_vars reportFinishWork_vars fun _ =>
    reportMoreWork_vars

/-- **The module does what it does without the record.** -/
theorem reportStep_vars :
    (reportStep platform r input).map Reporting.vars = moduleStep platform r.vars input := by
  have hstep : ∀ input : ModuleInput n,
      reportStep platform r input =
        (moduleStep platform r.vars input).map (fun s => { r with vars := s }) →
      (reportStep platform r input).map Reporting.vars = moduleStep platform r.vars input := by
    intro input h
    rw [h]
    cases moduleStep platform r.vars input <;> rfl
  cases input with
  | vtssGptpTick env => exact reportTick_vars
  | vtssGptpSetPortconfig env p config =>
    have hfinish := @reportFinishWork_vars n platform.host env
      { r with vars := gptpInit platform r.vars }
    rw [reportStep, moduleStep, ← hfinish, Option.map_map, Option.map_map]
    rfl
  | vtssGptpInit | vtssGptpDeinit | vtssGptpSetConfig | processRxAnnounce | processRxSync |
    processRxFup | delayReception => exact hstep _ rfl

/-! ### The grandmaster -/

/-- Whom the record is about is the same, and so is the note. -/
structure SameMaster (s s' : GptpModule n) : Prop where
  gm : s'.system.gptp.gmPriorityVector = s.system.gptp.gmPriorityVector
  newMaster : s'.system.gptp.newMaster = s.system.gptp.newMaster
  selecting : s'.system.gptp.portRoleSelectionState = s.system.gptp.portRoleSelectionState
  identity : s'.system.grandmasterIdentity = s.system.grandmasterIdentity
  adminEnabled : s'.adminEnabled = s.adminEnabled

theorem SameMaster.refl : SameMaster s s := ⟨rfl, rfl, rfl, rfl, rfl⟩

theorem SameMaster.trans (h : SameMaster s s') (h' : SameMaster s' u) : SameMaster s u :=
  ⟨h'.gm.trans h.gm, h'.newMaster.trans h.newMaster, h'.selecting.trans h.selecting,
    h'.identity.trans h.identity, h'.adminEnabled.trans h.adminEnabled⟩

/-- A port is written, but for its path vector. -/
theorem SameMaster.setPort {pp : Port} (hgptp : s'.system.gptp = s.system.gptp.setPort p pp)
    (hpath : pp.gmPathPriority = (s.system.gptp.ports p).gmPathPriority)
    (hidentity : s'.system.grandmasterIdentity = s.system.grandmasterIdentity)
    (hadmin : s'.adminEnabled = s.adminEnabled) : SameMaster s s' := by
  refine ⟨?_, ?_, ?_, hidentity, hadmin⟩
  · rw [hgptp, Gptpm.setPort_gmPriorityVector hpath]
  · rw [hgptp]
    rfl
  · rw [hgptp]
    rfl

theorem transmitAnnounce_identity {clock : Clock} (h : s.transmitAnnounce host clock i = some s') :
    s'.system.grandmasterIdentity = s.system.grandmasterIdentity := by
  obtain ⟨tx, -, rfl⟩ := Option.map_eq_some_iff.mp h
  rfl

theorem transmitSync_identity {clock : Clock} {sync : SyncSystem n} :
    (transmitSync host clock sync i).1.grandmasterIdentity = sync.grandmasterIdentity := by
  rw [transmitSync]
  dsimp only
  split <;> rfl

theorem syncTurn_identity {clock : Clock} {timerTicks : UInt32} :
    (syncTurn host clock timerTicks s i).system.grandmasterIdentity =
      s.system.grandmasterIdentity := by
  rw [syncTurn]
  split
  · exact transmitSync_identity
  · rfl

theorem transmitTurn_identity {timerTicks : UInt32}
    (h : transmitTurn host env timerTicks s i = some s') :
    s'.system.grandmasterIdentity = s.system.grandmasterIdentity := by
  rw [transmitTurn] at h
  split at h
  · obtain ⟨u, hu, rfl⟩ := Option.map_eq_some_iff.mp h
    rw [syncTurn_identity]
    rw [announceTurn] at hu
    dsimp only at hu
    split at hu
    · have hidentity := transmitAnnounce_identity hu
      exact hidentity
    · obtain rfl := Option.some_inj.mp hu
      rfl
  · obtain rfl := Option.some_inj.mp h
    rfl

theorem transmitTurn_sameMaster {timerTicks : UInt32}
    (h : transmitTurn host env timerTicks s i = some s') : SameMaster s s' := by
  obtain ⟨⟨newInfo, hgptp⟩, hadmin⟩ := transmitTurn_sendsOnly h
  refine ⟨?_, ?_, ?_, transmitTurn_identity h, hadmin⟩
  · rw [hgptp]
    exact gmPriorityVector_same rfl rfl rfl fun _ => rfl
  · rw [hgptp]
  · rw [hgptp]

theorem takeVerdict_sameMaster {verdict : DelayVerdict} :
    SameMaster s (s.takeVerdict i verdict) := by
  have hgptp : (s.takeVerdict i verdict).system.gptp =
      s.system.gptp.setPort i ((s.system.gptp.ports i).withVerdict verdict) := rfl
  exact .setPort hgptp rfl rfl rfl

theorem machineTurn_sameMaster (h : machineTurn env s i = some s') : SameMaster s s' := by
  obtain ⟨t, ht, rfl⟩ := Option.map_eq_some_iff.mp h
  have hverdict : SameMaster s (s.takeVerdict i (env.verdict i)) := takeVerdict_sameMaster
  refine hverdict.trans ?_
  obtain ⟨pp, hpath, rfl⟩ := portAnnounceInformation_invariant
    (I := fun q => q.gmPathPriority =
      ((s.takeVerdict i (env.verdict i)).system.gptp.ports i).gmPathPriority)
    (fun hq _ hset => (setState_selection hset).1.trans hq) rfl ht
  have hgptp : ((s.takeVerdict i (env.verdict i)).withGptp
      ((s.takeVerdict i (env.verdict i)).system.gptp.setPort i pp)).system.gptp =
        (s.takeVerdict i (env.verdict i)).system.gptp.setPort i pp := rfl
  exact .setPort hgptp hpath rfl rfl

theorem foldlM_sameMaster {f : GptpModule n → Fin n → Option (GptpModule n)}
    (hf : ∀ {s i s'}, f s i = some s' → SameMaster s s') {l : List (Fin n)}
    (h : l.foldlM f s = some s') : SameMaster s s' :=
  Runs.run_invariant (I := fun u => SameMaster s u) (fun hu hstep => hu.trans (hf hstep)) .refl h

/-- **A selection notes** that the vector of the grandmaster has changed. -/
theorem selectRoles_newMaster (hselecting : t.portRoleSelectionState = .roleSelection) :
    (selectRoles t).newMaster =
        (if (selectRoles t).gmPriorityVector ≠ t.gmPriorityVector then true else t.newMaster) ∧
      (selectRoles t).portRoleSelectionState = .roleSelection := by
  rw [selectRoles]
  split
  case isTrue hreselect =>
    have hselects : Selects t (Input.portRoleSelection : Input n) := ⟨hselecting, hreselect⟩
    have hclear : (clearReselectTree t).gmPriorityVector = t.gmPriorityVector :=
      gmPriorityVector_same rfl rfl rfl fun _ => rfl
    rw [portRoleSelection_of_selects hselects, setSelectedTree_gmPriorityVector, ← hclear]
    exact ⟨updtRolesTree_newMaster,
      (updtRolesTree_portRoleSelectionState (t := clearReselectTree t)).trans hselecting⟩
  case isFalse =>
    rw [if_neg (not_not.mpr rfl)]
    exact ⟨rfl, hselecting⟩

/-! ### The record is kept -/

/-- The record is the grandmaster's, but for the number of hops. -/
def Reporting.Current (r : Reporting n) : Prop :=
  r.newMaster = { r.vars.masterRecord with masterStepsRemoved := r.newMaster.masterStepsRemoved }

/-- The record does not change, and neither does what it is about. -/
theorem Reporting.Current.same (h : r.Current) (hgm : s'.system.gptp.gmPriorityVector =
    r.vars.system.gptp.gmPriorityVector)
    (hidentity : s'.system.grandmasterIdentity = r.vars.system.grandmasterIdentity) :
    Reporting.Current { r with vars := s' } := by
  have hrecord : r.newMaster =
      { r.vars.masterRecord with masterStepsRemoved := r.newMaster.masterStepsRemoved } := h
  show r.newMaster = _
  rw [hrecord, GptpModule.masterRecord, GptpModule.masterRecord, hgm, hidentity]

/-- Between two calls: the record is the grandmaster's, or that it is not has been noted. -/
structure Noted (r : Reporting n) : Prop where
  rested : r.vars.currentSm = false
  selecting : r.vars.adminEnabled = true →
    r.vars.system.gptp.portRoleSelectionState = .roleSelection
  noted : r.vars.adminEnabled = true → r.vars.system.gptp.newMaster = true ∨ r.Current

theorem Noted.same (h : Noted r) (hsame : SameMaster r.vars s') (hsm : s'.currentSm = false) :
    Noted { r with vars := s' } where
  rested := hsm
  selecting hadmin := hsame.selecting.trans (h.selecting (hsame.adminEnabled.symm.trans hadmin))
  noted hadmin := (h.noted (hsame.adminEnabled.symm.trans hadmin)).imp hsame.newMaster.trans
    fun hcurrent => hcurrent.same hsame.gm hsame.identity

/-- Initialisation notes that there is a new grandmaster. -/
theorem swInit_noted {newMaster : MasterRecord} {mac : Vector UInt8 6} {rxPhyMacDelay : PtpTime} :
    Noted ⟨s.swInit mac rxPhyMacDelay, newMaster⟩ where
  rested := rfl
  selecting _ := by
    show (portRoleSelection _).portRoleSelectionState = _
    rw [portRoleSelection]
    split
    · exact portRoleSelectionTurn_state
    · exact portRoleSelectionTurn_state
  noted _ := Or.inl rfl

theorem Noted.init (h : Noted r) : Noted { r with vars := gptpInit platform r.vars } := by
  rw [gptpInit]
  split
  · exact h
  · exact swInit_noted

/-- **The worker** takes the note back and leaves the record of the grandmaster. -/
theorem reportMoreWork_current (hsm : r.vars.currentSm = true)
    (hadmin : r.vars.adminEnabled = true)
    (hselecting : r.vars.system.gptp.portRoleSelectionState = .roleSelection)
    (hnoted : r.vars.system.gptp.newMaster = true ∨ r.Current)
    (h : reportMoreWork host env r = some r') :
    r'.Current ∧ r'.vars.currentSm = false ∧
      r'.vars.system.gptp.portRoleSelectionState = .roleSelection := by
  rw [reportMoreWork, hsm, hadmin, Bool.not_true, if_neg Bool.false_ne_true, if_pos rfl] at h
  obtain ⟨u, hu, h⟩ := Option.bind_eq_some_iff.mp h
  obtain ⟨v, hv, rfl⟩ := Option.map_eq_some_iff.mp h
  obtain ⟨hnew, hstate⟩ := selectRoles_newMaster hselecting
  have htransmit := foldlM_sameMaster (fun h => transmitTurn_sameMaster h) hu
  have hsame := htransmit.trans (foldlM_sameMaster (fun h => machineTurn_sameMaster h) hv)
  refine ⟨?_, rfl, hsame.selecting.trans hstate⟩
  cases hnote : v.system.gptp.newMaster with
  | true =>
    dsimp only
    rw [if_pos rfl]
    rfl
  | false =>
    -- the vector was not changed, and no change had been noted before
    rw [hsame.newMaster] at hnote
    have hnote : (selectRoles r.vars.system.gptp).newMaster = false := hnote
    rw [hnew] at hnote
    split at hnote
    · cases hnote
    next hgm =>
      have hcurrent : r.Current := hnoted.resolve_left (by rw [hnote]; exact Bool.false_ne_true)
      dsimp only
      rw [if_neg Bool.false_ne_true]
      exact hcurrent.same (hsame.gm.trans (not_not.mp hgm)) hsame.identity

/-- Where no work is left unfinished, a tick is one run of the worker. -/
theorem reportTick_eq (hsm : r.vars.currentSm = false) :
    reportTick host env r = reportMoreWork host env
      { r with vars := { r.vars with timerTicks := r.vars.timerTicks + 1, currentSm := true } } := by
  rw [reportTick, reportFinishWork, hsm, if_neg Bool.false_ne_true, Option.bind_some,
    reportMachineUpdate, reportFinishWork]
  dsimp only
  rw [if_neg (by rw [hsm]; exact Bool.false_ne_true), Option.bind_some]

/-- Without an instance the worker does nothing. -/
theorem reportMoreWork_disabled (hsm : r.vars.currentSm = true)
    (hadmin : r.vars.adminEnabled = false) :
    reportMoreWork host env r = some { r with vars := { r.vars with currentSm := false } } := by
  have hworking : ¬ (!r.vars.currentSm) = true := by
    rw [hsm]
    exact Bool.false_ne_true
  have hdisabled : ¬ r.vars.adminEnabled = true := by
    rw [hadmin]
    exact Bool.false_ne_true
  rw [reportMoreWork]
  dsimp only
  rw [if_neg hworking, if_neg hdisabled]

/-- **A tick leaves the record of the grandmaster.** -/
theorem reportTick_noted (hr : Noted r) (h : reportTick host env r = some r') :
    Noted r' ∧ (r'.vars.adminEnabled = true → r'.Current) := by
  rw [reportTick_eq hr.rested] at h
  let u : Reporting n :=
    { r with vars := { r.vars with timerTicks := r.vars.timerTicks + 1, currentSm := true } }
  cases hadmin : r.vars.adminEnabled with
  | true =>
    obtain ⟨hcurrent, hsm, hselecting⟩ := reportMoreWork_current (r := u) rfl hadmin
      (hr.selecting hadmin) (hr.noted hadmin) h
    exact ⟨⟨hsm, fun _ => hselecting, fun _ => Or.inr hcurrent⟩, fun _ => hcurrent⟩
  | false =>
    rw [reportMoreWork_disabled (r := u) rfl hadmin] at h
    obtain rfl := Option.some_inj.mp h
    have hdisabled : ∀ hadmin' : r.vars.adminEnabled = true, False := by
      intro hadmin'
      rw [hadmin] at hadmin'
      cases hadmin'
    exact ⟨⟨rfl, fun h => (hdisabled h).elim, fun h => (hdisabled h).elim⟩,
      fun h => (hdisabled h).elim⟩

/-! ### The other calls -/

theorem relaySync_identity {clock : Fin n → Clock} {sync : SyncSystem n} :
    (relaySync host clock sync).1.grandmasterIdentity = sync.grandmasterIdentity := by
  have hrelay : ∀ (l : List (Fin n)) (x : SyncSystem n × List (Fin n × Mem × Mem)),
      (l.foldl (relayOn host clock) x).1.grandmasterIdentity = x.1.grandmasterIdentity := by
    intro l
    induction l with
    | nil => exact fun _ => rfl
    | cons i l ih =>
      intro x
      rw [List.foldl_cons, ih, relayOn]
      split
      · exact transmitSync_identity
      · rfl
  exact hrelay _ _

theorem processRxFup_identity {clock : Fin n → Clock} {locals : SyncLocals} {currentSm : Bool}
    {sync sync' : SyncSystem n} {m : Mem} {sent : List (Fin n × Mem × Mem)}
    (h : processRxFup host clock locals currentSm sync p m = some (sync', sent)) :
    sync'.grandmasterIdentity = sync.grandmasterIdentity := by
  by_cases haccepts : AcceptsFup sync p m
  · obtain ⟨u, hstore, hrelay⟩ := processRxFup_relays haccepts h
    have hidentity := @relaySync_identity n host clock u
    rw [hrelay] at hidentity
    obtain ⟨v, hv, rfl⟩ := Option.map_eq_some_iff.mp hstore
    obtain ⟨rateRatio, upstreamTxTime, rfl⟩ := updateRateRatio_frame hv
    exact hidentity
  · rw [processRxFup_neg haccepts] at h
    obtain ⟨rfl, -⟩ := Prod.mk.inj (Option.some_inj.mp h)
    rfl

theorem processRxSync_identity {clock : Clock} {locals : SyncLocals} {sync : SyncSystem n}
    {m : Mem} : (processRxSync host clock locals sync p m).grandmasterIdentity =
      sync.grandmasterIdentity := by
  rw [processRxSync]
  split <;> rfl

/-- **Every call** keeps the note, and a tick leaves the record of the grandmaster. -/
theorem Noted.step (hr : Noted r) (h : reportStep platform r input = some r') : Noted r' := by
  cases input with
  | vtssGptpInit =>
    obtain rfl := Option.some_inj.mp h
    exact hr.init
  | vtssGptpDeinit =>
    obtain rfl := Option.some_inj.mp h
    exact swInit_noted
  | vtssGptpTick env => exact (reportTick_noted hr h).1
  | vtssGptpSetConfig config =>
    obtain rfl := Option.some_inj.mp h
    exact hr.init.same ⟨gmPriorityVector_same rfl rfl rfl fun _ => rfl, rfl, rfl, rfl, rfl⟩
      hr.init.rested
  | vtssGptpSetPortconfig env p config =>
    obtain ⟨u, hu, rfl⟩ := Option.map_eq_some_iff.mp h
    -- no work is left unfinished
    have hfinished : u = { r with vars := gptpInit platform r.vars } := by
      rw [reportFinishWork, if_neg (by rw [hr.init.rested]; exact Bool.false_ne_true)] at hu
      exact (Option.some_inj.mp hu).symm
    subst hfinished
    have hgptp : ((gptpInit platform r.vars).setPortconfig p config).system.gptp =
        (gptpInit platform r.vars).system.gptp.setPort p
          { (gptpInit platform r.vars).system.gptp.ports p with portConfig := config } := rfl
    exact hr.init.same (.setPort hgptp rfl rfl rfl) hr.init.rested
  | processRxAnnounce p m =>
    obtain ⟨u, hu, rfl⟩ := Option.map_eq_some_iff.mp h
    obtain ⟨t', ht', rfl⟩ := Option.map_eq_some_iff.mp hu
    obtain ⟨rcvdMsg, pathTrace, pathTraceLength, rfl⟩ := processRxAnnounce_eq_with ht'
    refine hr.same ⟨?_, rfl, rfl, rfl, rfl⟩ hr.rested
    refine gmPriorityVector_same rfl rfl rfl fun i => ?_
    show ((r.vars.system.gptp.setPort p _).ports i).gmPathPriority = _
    by_cases hi : i = p
    · rw [hi, Gptpm.setPort_ports_self]
    · rw [Gptpm.setPort_ports_of_ne hi]
  | processRxSync p clock locals m =>
    obtain rfl := Option.some_inj.mp h
    exact hr.same (.setPort processRxSync_gptp rfl processRxSync_identity rfl) hr.rested
  | processRxFup p clock locals m =>
    obtain ⟨u, hu, rfl⟩ := Option.map_eq_some_iff.mp h
    obtain ⟨⟨sync, sent⟩, hfup, rfl⟩ := Option.map_eq_some_iff.mp hu
    have hgptp := processRxFup_gptp hfup
    refine hr.same ⟨?_, ?_, ?_, processRxFup_identity hfup, rfl⟩ hr.rested
    · exact congrArg Gptpm.gmPriorityVector hgptp
    · exact congrArg Gptpm.newMaster hgptp
    · exact congrArg Gptpm.portRoleSelectionState hgptp
  | delayReception p verdict =>
    obtain rfl := Option.some_inj.mp h
    exact hr.same takeVerdict_sameMaster hr.rested

/-- **After every tick of every run** the record is the grandmaster's, but for the number of
hops. -/
theorem grandmaster_reported (platform : Platform) (systemConfig : SystemConfig)
    (portConfig : Fin n → PortConfig) (ptpTxBuf : Mem) (newMaster : MasterRecord)
    (inputs : List (ModuleInput n)) (env : TickEnv n) (r : Reporting n)
    (hrun : Runs.run (reportStep platform)
      ⟨GptpModule.staticMemory systemConfig portConfig ptpTxBuf, newMaster⟩
      (inputs ++ [.vtssGptpTick env]) = some r)
    (hadmin : r.vars.adminEnabled = true) : r.Current := by
  obtain ⟨u, hu, htick⟩ := Runs.run_append_eq_some.mp hrun
  rw [Runs.run_singleton] at htick
  have hstatic : Noted (⟨GptpModule.staticMemory systemConfig portConfig ptpTxBuf, newMaster⟩ :
      Reporting n) :=
    ⟨rfl, fun h => (Bool.false_ne_true h).elim, fun h => (Bool.false_ne_true h).elim⟩
  have hnoted : Noted u := Runs.run_invariant (fun hr hstep => Noted.step hr hstep) hstatic hu
  exact (reportTick_noted hnoted htick).2 hadmin

/-- A port receives a message of a better grandmaster. -/
def hearsOfBetter : List (ModuleInput 8) :=
  comesUpAsMaster ++ [.processRxAnnounce firstPort (announceFrom 50 1), .vtssGptpTick capableTick]

/-- Nothing has been written yet. -/
def unreported : Reporting 8 where
  vars := exampleModule
  newMaster :=
    { grandmasterPriority1 := 0
      clockClass := 0
      clockAccuracy := 0
      offsetScaledLogVariance := 0
      grandmasterPriority2 := 0
      grandmasterIdentity := Vector.replicate 8 0
      masterStepsRemoved := 0
      localClockIdentity := Vector.replicate 8 0 }

/-- The better grandmaster is the one that is reported. -/
theorem grandmaster_reported_better : ∃ r,
    Runs.run (reportStep examplePlatform) unreported
      (hearsOfBetter ++ [.vtssGptpTick capableTick]) = some r ∧
      r.newMaster.grandmasterPriority1 = 50 ∧ r.Current := by
  have hrun : (Runs.run (reportStep examplePlatform) unreported
      (hearsOfBetter ++ [.vtssGptpTick capableTick])).map
      (fun r => (r.newMaster.grandmasterPriority1, r.vars.adminEnabled)) = some (50, true) := by
    decide +kernel
  obtain ⟨r, hr, heq⟩ := Option.map_eq_some_iff.mp hrun
  obtain ⟨hpriority, hadmin⟩ := Prod.mk.inj heq
  exact ⟨r, hr, hpriority, grandmaster_reported _ _ _ _ _ hearsOfBetter capableTick r hr hadmin⟩

end Gptp
