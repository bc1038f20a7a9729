/-
How long a port keeps what it has received.

`announceTimeoutCounter` is compared with the timeout and set to zero, but nothing counts it:
`vtss_gptp_port_timers_tick` is empty, and never called.  So the information of a port ends with
the tick that finds it displaced by something else, and with no other.

* `portRoleSelection_selection` — what a role selection writes of a port;
* `ModuleAges` — what holds between two calls of the module, the counter at zero among it;
* `gone_iff_displaced` — received information is gone after a time without an Announce message
  exactly if a tick in between has found it displaced.
-/
import AvbSwitch.AnnounceWindow

open Octets

namespace Gptp

variable {n : ℕ} {platform : Platform} {s s' u : GptpModule n} {t t' : Gptpm n} {p i : Fin n}
  {pp pp' pp'' r : Port} {env : TickEnv n} {input : ModuleInput n} {inputs : List (ModuleInput n)}
  {gmPresent : Bool} {masterStepsRemoved : UInt16} {port : ℕ} {q : Prop}
  {newState : PortAnnounceInformationState}

/-! ### What a selection writes -/

/-- The variables of a port that a role selection writes. -/
structure Selection where
  selectedRole : PtpRole
  masterPriority : PriorityVector
  gmPathPriority : PriorityVector
  syncTimeoutCounter : UInt32
  updtInfo : Bool
  reselect : Bool
  selected : Bool

def Port.withSelection (pp : Port) (selection : Selection) : Port :=
  { pp with
    selectedRole := selection.selectedRole
    masterPriority := selection.masterPriority
    gmPathPriority := selection.gmPathPriority
    syncTimeoutCounter := selection.syncTimeoutCounter
    updtInfo := selection.updtInfo
    reselect := selection.reselect
    selected := selection.selected }

/-- What a port would have without a selection. -/
def Port.ownSelection (pp : Port) : Selection :=
  ⟨pp.selectedRole, pp.masterPriority, pp.gmPathPriority, pp.syncTimeoutCounter, pp.updtInfo,
    pp.reselect, pp.selected⟩

def SameButSelection (pp pp' : Port) : Prop := ∃ selection, pp' = pp.withSelection selection

theorem SameButSelection.refl : SameButSelection pp pp := ⟨pp.ownSelection, rfl⟩

theorem SameButSelection.trans (h : SameButSelection pp pp') (h' : SameButSelection pp' pp'') :
    SameButSelection pp pp'' := by
  obtain ⟨selection, rfl⟩ := h
  obtain ⟨selection', rfl⟩ := h'
  exact ⟨selection', rfl⟩

theorem computeGmPathPriority_selection : SameButSelection pp (computeGmPathPriority gmPresent pp) := by
  rw [computeGmPathPriority]
  split
  · exact ⟨{ pp.ownSelection with gmPathPriority := _ }, rfl⟩
  · exact ⟨{ pp.ownSelection with gmPathPriority := _, syncTimeoutCounter := _ }, rfl⟩

theorem assignRole_selection : SameButSelection (t.ports i) (assignRole t i) := by
  have hwritten : ∀ role updtInfo, SameButSelection (t.ports i)
      { t.ports i with
        masterPriority := masterPriorityOf t i, selectedRole := role, updtInfo := updtInfo } :=
    fun role updtInfo =>
      ⟨{ (t.ports i).ownSelection with
          masterPriority := masterPriorityOf t i, selectedRole := role, updtInfo := updtInfo }, rfl⟩
  rw [assignRole]
  split
  · exact hwritten _ _
  · exact hwritten _ _
  · exact hwritten _ _
  · split_ifs <;> exact hwritten _ _

theorem updtRolesTree_selection : SameButSelection (t.ports i) ((updtRolesTree t).ports i) := by
  rw [updtRolesTree_ports]
  refine SameButSelection.trans ?_ assignRole_selection
  rw [updateGmPriority_best.ports]
  exact computeGmPathPriority_selection

theorem portRoleSelectionTurn_selection :
    SameButSelection (t.ports i) ((portRoleSelectionTurn t).ports i) := by
  rw [portRoleSelectionTurn]
  split
  · exact ⟨{ (t.ports i).ownSelection with selectedRole := .disabled }, rfl⟩
  · split
    · have hclear : SameButSelection (t.ports i) ((clearReselectTree t).ports i) :=
        ⟨{ (t.ports i).ownSelection with reselect := false }, rfl⟩
      refine (hclear.trans updtRolesTree_selection).trans ?_
      exact ⟨{ Port.ownSelection _ with selected := true }, rfl⟩
    · exact .refl

/-- **A role selection writes the roles, the flags and the vectors that belong to it.** -/
theorem portRoleSelection_selection : SameButSelection (t.ports i) ((portRoleSelection t).ports i) := by
  rw [portRoleSelection]
  split
  · exact portRoleSelectionTurn_selection
  · exact portRoleSelectionTurn_selection.trans portRoleSelectionTurn_selection

/-- A port that is asked for an update is selected, or has asked for a selection. -/
def UpdateAllowed (pp : Port) : Prop := pp.updtInfo → pp.selected ∨ pp.reselect

theorem portRoleSelection_updateAllowed (h : UpdateAllowed (t.ports i)) :
    UpdateAllowed ((portRoleSelection t).ports i) := by
  by_cases hreselect : Reselecting t
  · exact fun _ => Or.inl (portRoleSelection_selected hreselect)
  · -- without a selection at most the role is written
    have hsame : ∃ role, (portRoleSelection t).ports i = { t.ports i with selectedRole := role } := by
      cases hstate : t.portRoleSelectionState with
      | initBridge =>
        have hturn : portRoleSelectionTurn t =
            { updtRoleDisabledTree t with portRoleSelectionState := .roleSelection } := by
          rw [portRoleSelectionTurn, hstate]
        have hstill : ¬ Reselecting
            { updtRoleDisabledTree t with portRoleSelectionState := .roleSelection } := hreselect
        rw [portRoleSelection, hstate, hturn, if_neg PortRoleSelectionState.noConfusion,
          portRoleSelectionTurn]
        dsimp only
        rw [if_neg hstill]
        exact ⟨.disabled, rfl⟩
      | roleSelection =>
        rw [portRoleSelection_of_not_reselecting hstate hreselect]
        exact ⟨(t.ports i).selectedRole, rfl⟩
    obtain ⟨role, hport⟩ := hsame
    rw [hport]
    exact h

/-! ### What holds of a port -/

/-- What holds of a port in every state. -/
structure PortAges (pp : Port) : Prop where
  counter : pp.announceTimeoutCounter = 0
  interval : pp.currentLogAnnounceInterval = 0
  received : pp.infoIs = .received → pp.portAnnounceInformationState ≠ .disabled ∧
    pp.portAnnounceInformationState ≠ .aged ∧ pp.portAnnounceInformationState ≠ .update
  updateAllowed : UpdateAllowed pp

/-- Received information is kept by actions that lead to one of the states in between. -/
theorem setState_received (hset : setState masterStepsRemoved port pp newState = some pp')
    (hinfo : pp'.infoIs = .received) : pp'.portAnnounceInformationState ≠ .disabled ∧
      pp'.portAnnounceInformationState ≠ .aged ∧ pp'.portAnnounceInformationState ≠ .update := by
  have hwritten := (Prod.mk.inj (setState_information hset)).2
  rw [setState_state hset]
  refine ⟨?_, ?_, ?_⟩
  all_goals
    rintro rfl
    exact InfoIs.noConfusion (hwritten.symm.trans hinfo)

/-- Every entry action leaves the counter at zero. -/
theorem PortAges.setState (h : PortAges pp)
    (hset : setState masterStepsRemoved port pp newState = some pp') : PortAges pp' := by
  have hreceived := setState_received hset
  cases newState <;> simp only [Gptp.setState, Option.some_inj, Option.map_eq_some_iff] at hset
  case begin | disabled =>
    subst hset
    exact ⟨rfl, h.interval, hreceived, fun _ => Or.inr rfl⟩
  case aged =>
    subst hset
    exact ⟨h.counter, h.interval, hreceived, fun _ => Or.inr rfl⟩
  case update =>
    subst hset
    exact ⟨h.counter, h.interval, hreceived, fun hupdt => absurd hupdt Bool.false_ne_true⟩
  case superiorMasterPort =>
    obtain ⟨m, -, rfl⟩ := hset
    exact ⟨rfl, h.interval, hreceived, fun _ => Or.inr rfl⟩
  case repeatedMasterPort =>
    subst hset
    exact ⟨rfl, h.interval, hreceived, h.updateAllowed⟩
  case inferiorMasterOrOtherPort | current =>
    subst hset
    exact ⟨h.counter, h.interval, hreceived, h.updateAllowed⟩
  case receive =>
    obtain ⟨m, -, rfl⟩ := hset
    exact ⟨h.counter, h.interval, hreceived, h.updateAllowed⟩

theorem PortAges.rests (h : PortAges pp) (hrests : Rests gmPresent masterStepsRemoved port pp r) :
    PortAges r := by
  obtain ⟨fuel, hturns⟩ := hrests
  exact turns_invariant (I := PortAges) (fun hpp _ hset => hpp.setState hset) h hturns

/-- Where the machine rests with received information, it is in its state CURRENT. -/
theorem PortAges.current_of_rests (h : PortAges pp)
    (hrests : Rests gmPresent masterStepsRemoved port pp r) (hreceived : r.infoIs = .received) :
    r.portAnnounceInformationState = .current := by
  obtain ⟨hdisabled, haged, -⟩ := (h.rests hrests).received hreceived
  have hsettled := settled_of_nextState (nextState_of_rests hrests)
  rw [Settled] at hsettled
  split at hsettled
  · exact hsettled.1.resolve_left haged
  · exact absurd hsettled hdisabled

/-! ### Information that is gone -/

/-- The port has no received information, and none is on the way. -/
structure Gone (pp : Port) : Prop where
  infoIs : pp.infoIs ≠ .received
  rcvdMsg : pp.rcvdMsg = false
  state : pp.portAnnounceInformationState ≠ .receive

theorem Gone.setState (h : Gone pp) (hnext : nextState gmPresent pp = some newState)
    (hset : setState masterStepsRemoved port pp newState = some pp') : Gone pp' := by
  -- the two actions that take a message are not entered
  have hreads : newState ≠ .receive ∧ newState ≠ .superiorMasterPort := by
    refine not_or.mp fun hs => ?_
    rcases nextState_reads hnext hs with hmsg | hstate
    · exact absurd (h.rcvdMsg.symm.trans hmsg) Bool.false_ne_true
    · exact h.state hstate
  refine ⟨?_, ?_, ?_⟩
  · have hinfo := (Prod.mk.inj (setState_information hset)).2
    cases newState with
    | superiorMasterPort => exact absurd rfl hreads.2
    | repeatedMasterPort | inferiorMasterOrOtherPort | current | receive =>
      rw [hinfo]
      exact h.infoIs
    | _ =>
      rw [hinfo]
      exact InfoIs.noConfusion
  · have hmsg := (Prod.mk.inj (setState_flags hset)).1
    cases newState with
    | aged | update | current | receive => exact hmsg.trans h.rcvdMsg
    | _ => exact hmsg
  · rw [setState_state hset]
    exact hreads.1

theorem Gone.rests (h : Gone pp) (hrests : Rests gmPresent masterStepsRemoved port pp r) :
    Gone r := by
  obtain ⟨fuel, hturns⟩ := hrests
  exact turns_invariant (I := Gone) (fun hpp hnext hset => hpp.setState hnext hset) h hturns

/-! ### Between two ticks -/

/-- What a call or a reception between two ticks does to a port: its information stays, and the
machine is started anew or left alone.  `q` says that no Announce message came in. -/
structure Called (q : Prop) (pp pp' : Port) : Prop where
  infoIs : pp'.infoIs = pp.infoIs
  rcvdMsg : q → pp'.rcvdMsg = pp.rcvdMsg
  ages : PortAges pp → PortAges pp'
  state : pp'.portAnnounceInformationState = .begin ∨
    pp'.portAnnounceInformationState = pp.portAnnounceInformationState ∧
      pp'.announceReceiptTimeout = pp.announceReceiptTimeout

theorem Called.refl : Called q pp pp := ⟨rfl, fun _ => rfl, id, Or.inr ⟨rfl, rfl⟩⟩

theorem Called.trans (h : Called q pp pp') (h' : Called q pp' pp'') : Called q pp pp'' where
  infoIs := h'.infoIs.trans h.infoIs
  rcvdMsg hq := (h'.rcvdMsg hq).trans (h.rcvdMsg hq)
  ages hpp := h'.ages (h.ages hpp)
  state := by
    rcases h'.state with hbegin | ⟨hstate', htimeout'⟩
    · exact Or.inl hbegin
    · rcases h.state with hbegin | ⟨hstate, htimeout⟩
      · exact Or.inl (hstate'.trans hbegin)
      · exact Or.inr ⟨hstate'.trans hstate, htimeout'.trans htimeout⟩

/-- The configuration, the delay machines and the timeout of Sync messages have no part in it. -/
theorem called_of_eq {config : PortConfig} {counter : UInt32} (verdict : DelayVerdict)
    (h : pp' = { pp.withVerdict verdict with portConfig := config, syncTimeoutCounter := counter }) :
    Called q pp pp' := by
  subst h
  refine ⟨rfl, fun _ => rfl, fun h => ?_, Or.inr ⟨rfl, rfl⟩⟩
  exact ⟨h.counter, h.interval, h.received, h.updateAllowed⟩

/-- `gptp_sw_init` leaves the information of a port alone. -/
theorem gptpSwInit_called {mac : Vector UInt8 6} :
    Called q (t.ports p) ((gptpSwInit mac t).ports p) := by
  obtain ⟨selection, hselection⟩ : SameButSelection ((gptpSwReset mac t).ports p)
      ((portRoleSelection (gptpSwReset mac t)).ports p) := portRoleSelection_selection
  have hport : (gptpSwInit mac t).ports p =
      { (portRoleSelection (gptpSwReset mac t)).ports p with
        announceTimeoutCounter := 0, syncTimeoutCounter := 0 } := rfl
  have hbegin : ((gptpSwInit mac t).ports p).portAnnounceInformationState = .begin := by
    rw [hport, hselection]
    rfl
  refine ⟨?_, fun _ => ?_, fun h => ⟨rfl, ?_, fun _ => ?_, ?_⟩, Or.inl hbegin⟩
  · rw [hport, hselection]
    rfl
  · rw [hport, hselection]
    rfl
  · rw [hport, hselection]
    rfl
  · rw [hbegin]
    exact ⟨PortAnnounceInformationState.noConfusion, PortAnnounceInformationState.noConfusion,
      PortAnnounceInformationState.noConfusion⟩
  · have hallowed : UpdateAllowed ((gptpSwReset mac t).ports p) := h.updateAllowed
    exact portRoleSelection_updateAllowed hallowed

theorem gptpInit_called :
    Called q (s.system.gptp.ports p) ((gptpInit platform s).system.gptp.ports p) := by
  rw [gptpInit]
  split
  · exact .refl
  · exact gptpSwInit_called

/-- Writing one port is a call on that port, and none on the others. -/
theorem called_setPort (h : i = p → Called q (t.ports p) pp') :
    Called q (t.ports p) ((t.setPort i pp').ports p) := by
  by_cases hi : p = i
  · subst hi
    rw [Gptpm.setPort_ports_self]
    exact h rfl
  · rw [Gptpm.setPort_ports_of_ne hi]
    exact .refl

theorem processRxFup_gptp {host : Host} {clock : Fin n → Clock} {locals : SyncLocals} {m : Mem}
    {currentSm : Bool} {sync sync' : SyncSystem n} {sent : List (Fin n × Mem × Mem)}
    (h : processRxFup host clock locals currentSm sync p m = some (sync', sent)) :
    sync'.gptp = sync.gptp := by
  by_cases haccepts : AcceptsFup sync p m
  · obtain ⟨u, hstore, hrelay⟩ := processRxFup_relays haccepts h
    have hgptp := (@relaySync_spec n host clock u).1
    rw [hrelay] at hgptp
    exact hgptp.trans (storeFup_spec hstore).1
  · rw [processRxFup_neg haccepts] at h
    obtain ⟨rfl, -⟩ := Prod.mk.inj (Option.some_inj.mp h)
    rfl

theorem processRxSync_gptp {host : Host} {clock : Clock} {locals : SyncLocals} {m : Mem}
    {sync : SyncSystem n} : (processRxSync host clock locals sync i m).gptp =
      sync.gptp.setPort i { sync.gptp.ports i with syncTimeoutCounter := 0 } := by
  rw [processRxSync]
  split <;> rfl

/-- The input is a tick. -/
def ModuleInput.isTick : ModuleInput n → Bool
  | .vtssGptpTick _ => true
  | _ => false

/-- No Announce message comes in on port `p` with this input. -/
def QuietOn (p : Fin n) (input : ModuleInput n) : Prop := ∀ m, input ≠ .processRxAnnounce p m

/-- **Between two ticks the information of a port stays.** -/
theorem moduleStep_called (hsm : s.currentSm = false) (hinput : input.isTick = false)
    (h : moduleStep platform s input = some s') :
    (s'.adminEnabled = false → s.adminEnabled = false) ∧
      Called (QuietOn p input) (s.system.gptp.ports p) (s'.system.gptp.ports p) := by
  have hinit : (gptpInit platform s).adminEnabled = false → s.adminEnabled = false := by
    rw [gptpInit]
    split
    · exact id
    · exact fun hadmin => Bool.noConfusion hadmin
  cases input with
  | vtssGptpInit => exact Option.some_inj.mp h ▸ ⟨hinit, gptpInit_called⟩
  | vtssGptpDeinit =>
    exact Option.some_inj.mp h ▸ ⟨fun hadmin => Bool.noConfusion hadmin, gptpSwInit_called⟩
  | vtssGptpTick env => cases hinput
  | vtssGptpSetConfig config => exact Option.some_inj.mp h ▸ ⟨hinit, gptpInit_called⟩
  | vtssGptpSetPortconfig env i config =>
    obtain ⟨u, hu, rfl⟩ := Option.map_eq_some_iff.mp h
    have hstep : moduleStep platform s .vtssGptpInit = some (gptpInit platform s) := rfl
    have hsm' := moduleStep_currentSm hsm hstep
    rw [finishGptpWork, hsm', if_neg Bool.false_ne_true] at hu
    obtain rfl := Option.some_inj.mp hu
    refine ⟨hinit, gptpInit_called.trans (called_setPort ?_)⟩
    rintro rfl
    exact called_of_eq (Port.ownVerdict _) rfl
  | processRxAnnounce i m =>
    obtain ⟨t, ht, rfl⟩ := Option.map_eq_some_iff.mp h
    obtain ⟨-, hothers, rcvdMsg, hport⟩ := processRxAnnounce_eq ht
    refine ⟨id, ?_⟩
    by_cases hi : p = i
    · subst hi
      show Called _ _ (t.ports p)
      rw [hport]
      exact ⟨rfl, fun hquiet => absurd rfl (hquiet m),
        fun h => ⟨h.counter, h.interval, h.received, h.updateAllowed⟩, Or.inr ⟨rfl, rfl⟩⟩
    · show Called _ _ (t.ports p)
      rw [hothers p hi]
      exact .refl
  | processRxSync i clock locals m =>
    obtain rfl := Option.some_inj.mp h
    refine ⟨id, ?_⟩
    show Called _ _ ((processRxSync platform.host clock locals s.system i m).gptp.ports p)
    rw [processRxSync_gptp]
    refine called_setPort ?_
    rintro rfl
    exact called_of_eq (Port.ownVerdict _) rfl
  | processRxFup i clock locals m =>
    obtain ⟨⟨sync, sent⟩, hfup, rfl⟩ := Option.map_eq_some_iff.mp h
    refine ⟨id, ?_⟩
    show Called _ _ (sync.gptp.ports p)
    rw [processRxFup_gptp hfup]
    exact .refl
  | delayReception i verdict =>
    obtain rfl := Option.some_inj.mp h
    refine ⟨id, called_setPort ?_⟩
    rintro rfl
    exact called_of_eq verdict rfl

/-! ### What holds between two calls -/

/-- With received information the machine rests in its state CURRENT, or is to start anew. -/
def Resting (pp : Port) : Prop :=
  pp.infoIs = .received →
    pp.portAnnounceInformationState = .begin ∨ pp.portAnnounceInformationState = .current

/-- What holds of the module between two calls. -/
structure ModuleAges (s : GptpModule n) : Prop where
  currentSm : s.currentSm = false
  ports : ∀ i, PortAges (s.system.gptp.ports i)
  resting : ∀ i, Resting (s.system.gptp.ports i)
  vacant : s.adminEnabled = false → ∀ i, (s.system.gptp.ports i).infoIs ≠ .received

theorem staticMemory_ages {systemConfig : SystemConfig} {portConfig : Fin n → PortConfig}
    {ptpTxBuf : Mem} : ModuleAges (GptpModule.staticMemory systemConfig portConfig ptpTxBuf) where
  currentSm := rfl
  ports _ := ⟨rfl, rfl, fun h => InfoIs.noConfusion h, fun h => absurd h Bool.false_ne_true⟩
  resting _ h := InfoIs.noConfusion h
  vacant _ _ := InfoIs.noConfusion

/-- A module that is not in use does nothing in a tick. -/
theorem vtssGptpTick_of_not_adminEnabled {host : Host} (hsm : s.currentSm = false)
    (hadmin : s.adminEnabled = false) (h : vtssGptpTick host env s = some s') :
    s'.system = s.system ∧ s'.adminEnabled = false := by
  rw [vtssGptpTick_eq hsm, moreWork] at h
  dsimp only at h
  rw [Bool.not_true, if_neg Bool.false_ne_true, hadmin, if_neg Bool.false_ne_true] at h
  obtain rfl := Option.some_inj.mp h
  exact ⟨rfl, rfl⟩

/-- How its machine finds a port in a tick. -/
structure FoundAs (pp pp' : Port) : Prop where
  info : SameInfo pp pp'
  ages : PortAges pp'
  allowed : pp'.updtInfo → pp'.selected
  announceReceiptTimeout : pp'.announceReceiptTimeout = pp.announceReceiptTimeout

theorem found_as (h : PortAges (t.ports p)) : FoundAs (t.ports p) (found env t p) := by
  have hselected := @found_selected n t p env h.updateAllowed
  obtain ⟨selection, hselection⟩ : SameButSelection (t.ports p) ((selectRoles t).ports p) := by
    rw [selectRoles]
    split
    · exact portRoleSelection_selection
    · exact .refl
  have hfound : found env t p = ((t.ports p).withSelection selection).withVerdict (env.verdict p) := by
    rw [found, hselection]
  refine ⟨found_sameInfo, ?_, hselected, by rw [hfound]; rfl⟩
  refine ⟨?_, ?_, ?_, fun hupdt => Or.inl (hselected hupdt)⟩ <;> rw [hfound]
  exacts [h.counter, h.interval, h.received]

/-- The loop that sends has at most written `newInfo` before. -/
theorem FoundAs.withNewInfo (h : FoundAs pp pp') (newInfo : Bool) :
    FoundAs pp (pp'.withNewInfo newInfo) where
  info := ⟨h.info.infoIs, h.info.portPriority, h.info.state, h.info.rcvdMsg,
    h.info.rcvdAnnouncePtr⟩
  ages := ⟨h.ages.counter, h.ages.interval, h.ages.received, h.ages.updateAllowed⟩
  allowed := h.allowed
  announceReceiptTimeout := h.announceReceiptTimeout

theorem Ticked.ages (hages : PortAges (t.ports p)) (h : Ticked env t t') :
    PortAges (t'.ports p) ∧ Resting (t'.ports p) := by
  obtain ⟨newInfo, hrests⟩ := h.ports p
  have hfound := ((@found_as n t p env hages).withNewInfo newInfo).ages
  exact ⟨hfound.rests hrests, fun h => Or.inr (hfound.current_of_rests hrests h)⟩

theorem ModuleAges.tick (hs : ModuleAges s) (h : moduleStep platform s (.vtssGptpTick env) = some s') :
    ModuleAges s' := by
  have hsm := moduleStep_currentSm hs.currentSm h
  cases hadmin : s.adminEnabled
  · obtain ⟨hsystem, hadmin'⟩ := vtssGptpTick_of_not_adminEnabled hs.currentSm hadmin h
    refine ⟨hsm, fun i => ?_, fun i => ?_, fun _ i => ?_⟩ <;> rw [hsystem]
    · exact hs.ports i
    · exact hs.resting i
    · exact hs.vacant hadmin i
  · obtain ⟨hadmin', hticked⟩ := vtssGptpTick_ticked hs.currentSm hadmin h
    exact ⟨hsm, fun i => (hticked.ages (hs.ports i)).1, fun i => (hticked.ages (hs.ports i)).2,
      fun hfalse => absurd (hfalse.symm.trans hadmin') Bool.false_ne_true⟩

/-- **What holds of the module holds after every call.** -/
theorem ModuleAges.step (hs : ModuleAges s) (h : moduleStep platform s input = some s') :
    ModuleAges s' := by
  cases hinput : input.isTick
  · have hcalled := fun i => @moduleStep_called n platform s s' i input hs.currentSm hinput h
    refine ⟨moduleStep_currentSm hs.currentSm h, fun i => (hcalled i).2.ages (hs.ports i),
      fun i hreceived => ?_, fun hadmin i => ?_⟩
    · rcases (hcalled i).2.state with hbegin | ⟨hstate, -⟩
      · exact Or.inl hbegin
      · rw [hstate]
        exact hs.resting i ((hcalled i).2.infoIs.symm.trans hreceived)
    · rw [(hcalled i).2.infoIs]
      exact hs.vacant ((hcalled i).1 hadmin) i
  · cases input with
    | vtssGptpTick env => exact hs.tick h
    | _ => cases hinput

/-! ### A tick that ends it -/

/-- An update is due, and no message is pending that is better than what it writes. -/
def Port.Superseded (port : ℕ) (pp : Port) : Prop :=
  (pp.selected && pp.updtInfo) = true ∧
    ∀ m, pp.rcvdAnnouncePtr = some m → pp.rcvdMsg →
      pp.masterPriority.value ≤ (extractAnnounce m port).value

/-- The machine finds a port so that its received information ends, whatever the counter says: the
port takes part no more, or is to start anew; the role selection has asked it for its own
information; or the timeout of Sync messages has passed. -/
def Port.Displaced (gmPresent : Bool) (port : ℕ) (pp : Port) : Prop :=
  pp.operational = false ∨ pp.portAnnounceInformationState ≠ .current ∨ pp.Superseded port ∨
    gmPresent ∧ pp.syncTimeout

theorem taken_received_iff (hreceived : pp.infoIs = .received) :
    (pp.taken port).2 = .received ↔ ¬ pp.Superseded port := by
  rw [Port.taken, Port.held, Port.Superseded]
  cases hdue : pp.selected && pp.updtInfo
  · simp only [Bool.false_eq_true, if_false, false_and, not_false_eq_true, iff_true]
    split
    · split_ifs
      · rfl
      · exact hreceived
    · exact hreceived
  · simp only [if_true, true_and]
    cases hptr : pp.rcvdAnnouncePtr with
    | none => simp
    | some m =>
      simp only [Option.some_inj, forall_eq']
      split_ifs with hbetter
      · exact iff_of_true rfl fun hall => hbetter.2.not_ge (hall hbetter.1)
      · refine iff_of_false id fun hnot => hnot fun hmsg => ?_
        exact not_lt.mp fun hlt => hbetter ⟨hmsg, hlt⟩

/-- A counter at zero is below the timeout, as the interval is one tick. -/
theorem PortAges.announceTimeout (h : PortAges pp) (htimeout : 0 < pp.announceReceiptTimeout.toInt) :
    pp.announceTimeout = false := by
  have hticks : pp.announceIntervalTicks = 1 := by
    rw [Port.announceIntervalTicks, h.interval]
    rfl
  have hlt : pp.announceReceiptTimeout.toInt < 2 ^ 7 := Int8.toInt_lt _
  rw [Port.announceTimeout, h.counter, hticks, one_mul, decide_eq_false_iff_not, UInt32.le_iff_toNat_le]
  have hvalue : (UInt32.ofInt pp.announceReceiptTimeout.toInt).toNat =
      pp.announceReceiptTimeout.toInt.toNat := by
    rw [UInt32.ofInt, UInt32.toNat_ofNat']
    omega
  rw [hvalue]
  show ¬ _ ≤ 0
  omega

theorem setState_announceReceiptTimeout
    (hset : setState masterStepsRemoved port pp newState = some pp') :
    pp'.announceReceiptTimeout = pp.announceReceiptTimeout := by
  cases newState <;> simp only [setState, Option.some_inj, Option.map_eq_some_iff] at hset
  case superiorMasterPort | receive =>
    obtain ⟨m, -, rfl⟩ := hset
    rfl
  all_goals exact hset ▸ rfl

theorem Rests.announceReceiptTimeout (h : Rests gmPresent masterStepsRemoved port pp r) :
    r.announceReceiptTimeout = pp.announceReceiptTimeout := by
  obtain ⟨fuel, hturns⟩ := h
  have hkeep := turns_invariant (I := fun q => q.announceReceiptTimeout = pp.announceReceiptTimeout)
    (fun hq _ hset => (setState_announceReceiptTimeout hset).trans hq) rfl hturns
  exact hkeep

/-- The timeout counts for a port that is in its state CURRENT. -/
def TimeoutPos (pp : Port) : Prop :=
  pp.portAnnounceInformationState = .current → 0 < pp.announceReceiptTimeout.toInt

/-- **What ends received information** when the machine runs.  The timeout of Announce messages is
not among it. -/
theorem Rests.received_iff (hages : PortAges pp) (hallowed : pp.updtInfo → pp.selected)
    (hresting : Resting pp) (hreceived : pp.infoIs = .received) (htimeout : TimeoutPos pp)
    (h : Rests gmPresent masterStepsRemoved port pp r) :
    (r.infoIs = .received ↔ ¬ pp.Displaced gmPresent port) ∧
      (r.infoIs = .received → TimeoutPos r) ∧ (r.infoIs ≠ .received → r.rcvdMsg = false) := by
  have hended : pp.Displaced gmPresent port → r.infoIs ≠ .received → r.rcvdMsg = false →
      (r.infoIs = .received ↔ ¬ pp.Displaced gmPresent port) ∧
        (r.infoIs = .received → TimeoutPos r) ∧ (r.infoIs ≠ .received → r.rcvdMsg = false) :=
    fun hdisplaced hinfo hmsg => ⟨iff_of_false hinfo (not_not.mpr hdisplaced),
      fun hreceived' => absurd hreceived' hinfo, fun _ => hmsg⟩
  cases hop : pp.operational
  · obtain ⟨hvector, hmsg, -⟩ := h.of_not_operational hop (hages.received hreceived).1
    refine hended (Or.inl hop) ?_ hmsg
    rw [(Prod.mk.inj hvector).2]
    exact InfoIs.noConfusion
  rcases hresting hreceived with hbegin | hcurrent
  · obtain ⟨haged, hmsg⟩ := h.of_begin hop hbegin
    refine hended (Or.inr (Or.inl ?_)) ?_ hmsg
    · rw [hbegin]
      exact PortAnnounceInformationState.noConfusion
    · rw [haged]
      exact InfoIs.noConfusion
  · obtain ⟨-, hmsg, hcounted⟩ := h.of_current ⟨hop, hcurrent⟩ hallowed
    have hnever : pp.announceTimeout = false := hages.announceTimeout (htimeout hcurrent)
    refine ⟨?_, fun _ _ => ?_, fun _ => hmsg⟩
    · rw [hcounted hages.counter, taken_received_iff hreceived, Port.timedOut, hnever, Bool.false_or]
      constructor
      · rintro ⟨hsuperseded, htimely⟩ (hop' | hstate | hdue | ⟨hgm, hsync⟩)
        · exact Bool.false_ne_true (hop'.symm.trans hop)
        · exact hstate hcurrent
        · exact hsuperseded hdue
        · rw [hgm, hsync] at htimely
          cases htimely
      · intro hnot
        refine ⟨fun hdue => hnot (Or.inr (Or.inr (Or.inl hdue))), Bool.eq_false_iff.mpr fun hboth => ?_⟩
        obtain ⟨hsync, hgm⟩ := Bool.and_eq_true_iff.mp hboth
        exact hnot (Or.inr (Or.inr (Or.inr ⟨hgm, hsync⟩)))
    · rw [h.announceReceiptTimeout]
      exact htimeout hcurrent

/-- In which ticks received information ends. -/
def Displaced (env : TickEnv n) (t : Gptpm n) (p : Fin n) : Prop :=
  (found env t p).Displaced (selectRoles t).gmPresent p

/-- **What ends received information in a tick.** -/
theorem Ticked.received_iff (hages : PortAges (t.ports p)) (hresting : Resting (t.ports p))
    (hreceived : (t.ports p).infoIs = .received) (htimeout : TimeoutPos (t.ports p))
    (h : Ticked env t t') :
    ((t'.ports p).infoIs = .received ↔ ¬ Displaced env t p) ∧
      ((t'.ports p).infoIs = .received → TimeoutPos (t'.ports p)) ∧
      ((t'.ports p).infoIs ≠ .received → Gone (t'.ports p)) := by
  obtain ⟨newInfo, hrests⟩ := h.ports p
  have hfound := (@found_as n t p env hages).withNewInfo newInfo
  have hresting' : Resting ((found env t p).withNewInfo newInfo) := by
    rw [Resting, hfound.info.state]
    exact fun _ => hresting hreceived
  have htimeout' : TimeoutPos ((found env t p).withNewInfo newInfo) := by
    rw [TimeoutPos, hfound.info.state, hfound.announceReceiptTimeout]
    exact htimeout
  obtain ⟨hiff, hpos, hmsg⟩ := hrests.received_iff hfound.ages hfound.allowed hresting'
    (hfound.info.infoIs.trans hreceived) htimeout'
  refine ⟨hiff, hpos, fun hinfo => ⟨hinfo, hmsg hinfo, ?_⟩⟩
  -- the machine does not rest where it looks at a message
  have hsettled := settled_of_nextState (nextState_of_rests hrests)
  rw [Settled] at hsettled
  intro hreceive
  rw [hreceive] at hsettled
  split at hsettled
  · rcases hsettled.1 with h | h <;> cases h
  · cases hsettled

theorem Ticked.gone (hgone : Gone (t.ports p)) (h : Ticked env t t') : Gone (t'.ports p) := by
  obtain ⟨newInfo, hrests⟩ := h.ports p
  have hinfo : SameInfo (t.ports p) (found env t p) := found_sameInfo
  have hfound : Gone ((found env t p).withNewInfo newInfo) := by
    refine ⟨?_, hinfo.rcvdMsg.trans hgone.rcvdMsg, ?_⟩
    · show (found env t p).infoIs ≠ .received
      rw [hinfo.infoIs]
      exact hgone.infoIs
    · show (found env t p).portAnnounceInformationState ≠ .receive
      rw [hinfo.state]
      exact hgone.state
  exact hfound.rests hrests

/-! ### A time without Announce messages -/

/-- What the module does in a tick or between two of them, while no Announce message comes in on
port `p`. -/
theorem gone_step (hs : ModuleAges s) (hquiet : QuietOn p input)
    (hgone : Gone (s.system.gptp.ports p)) (h : moduleStep platform s input = some s') :
    Gone (s'.system.gptp.ports p) := by
  cases hinput : input.isTick
  · obtain ⟨-, hcalled⟩ := @moduleStep_called n platform s s' p input hs.currentSm hinput h
    refine ⟨hcalled.infoIs ▸ hgone.infoIs, (hcalled.rcvdMsg hquiet).trans hgone.rcvdMsg, ?_⟩
    rcases hcalled.state with hstate | ⟨hstate, -⟩ <;> rw [hstate]
    · exact PortAnnounceInformationState.noConfusion
    · exact hgone.state
  · cases input with
    | vtssGptpTick env =>
      cases hadmin : s.adminEnabled
      · rw [(vtssGptpTick_of_not_adminEnabled hs.currentSm hadmin h).1]
        exact hgone
      · exact (vtssGptpTick_ticked hs.currentSm hadmin h).2.gone hgone
    | _ => cases hinput

/-- The input is no tick that ends the received information of port `p`. -/
def Leaves (p : Fin n) (s : GptpModule n) (input : ModuleInput n) : Prop :=
  ∀ env, input = .vtssGptpTick env → ¬ Displaced env s.system.gptp p

theorem received_step (hs : ModuleAges s) (hreceived : (s.system.gptp.ports p).infoIs = .received)
    (htimeout : TimeoutPos (s.system.gptp.ports p)) (h : moduleStep platform s input = some s') :
    ((s'.system.gptp.ports p).infoIs = .received ↔ Leaves p s input) ∧
      ((s'.system.gptp.ports p).infoIs = .received → TimeoutPos (s'.system.gptp.ports p)) ∧
      ((s'.system.gptp.ports p).infoIs ≠ .received → Gone (s'.system.gptp.ports p)) := by
  cases hinput : input.isTick
  · obtain ⟨-, hcalled⟩ := @moduleStep_called n platform s s' p input hs.currentSm hinput h
    have hreceived' := hcalled.infoIs.trans hreceived
    refine ⟨iff_of_true hreceived' ?_, fun _ => ?_, fun hinfo => absurd hreceived' hinfo⟩
    · rintro env rfl
      cases hinput
    · rcases hcalled.state with hstate | ⟨hstate, htimeout'⟩
      · rw [TimeoutPos, hstate]
        exact fun hcurrent => PortAnnounceInformationState.noConfusion hcurrent
      · rw [TimeoutPos, hstate, htimeout']
        exact htimeout
  · cases input with
    | vtssGptpTick env =>
      have hadmin : s.adminEnabled = true := by
        by_contra hnot
        exact hs.vacant (Bool.eq_false_iff.mpr hnot) p hreceived
      obtain ⟨hiff, hrest⟩ := (vtssGptpTick_ticked hs.currentSm hadmin h).2.received_iff
        (hs.ports p) (hs.resting p) hreceived htimeout
      refine ⟨hiff.trans ⟨?_, fun hleaves => hleaves env rfl⟩, hrest⟩
      rintro hnot env' ⟨⟩
      exact hnot
    | _ => cases hinput

/-- Received information is still there at the end exactly if no tick has ended it. -/
theorem received_iff_eachStep (hs : ModuleAges s)
    (hreceived : (s.system.gptp.ports p).infoIs = .received)
    (htimeout : TimeoutPos (s.system.gptp.ports p)) (hquiet : ∀ input ∈ inputs, QuietOn p input)
    (hrun : Runs.run (moduleStep platform) s inputs = some s') :
    (s'.system.gptp.ports p).infoIs = .received ↔
      Runs.EachStep (moduleStep platform) (Leaves p) s inputs := by
  induction inputs generalizing s with
  | nil =>
    obtain rfl := Option.some_inj.mp (Runs.run_nil.symm.trans hrun)
    exact iff_of_true hreceived trivial
  | cons input inputs ih =>
    obtain ⟨u, hu, hrest⟩ := Runs.run_cons_eq_some.mp hrun
    obtain ⟨-, hquiet'⟩ := List.forall_mem_cons.mp hquiet
    obtain ⟨hiff, hpos, hgone⟩ := received_step hs hreceived htimeout hu
    rw [Runs.eachStep_cons hu, ← hiff]
    by_cases hstill : (u.system.gptp.ports p).infoIs = .received
    · rw [ih (hs.step hu) hstill (hpos hstill) hquiet' hrest, and_iff_right hstill]
    · -- what is gone does not come back
      have hkeep : ∀ {s input s'}, QuietOn p input →
          (ModuleAges s ∧ Gone (s.system.gptp.ports p)) → moduleStep platform s input = some s' →
          (ModuleAges s' ∧ Gone (s'.system.gptp.ports p)) :=
        fun hq hI hstep => ⟨hI.1.step hstep, gone_step hI.1 hq hI.2 hstep⟩
      have hend := Runs.run_invariant_of_forall hkeep hquiet' ⟨hs.step hu, hgone hstill⟩ hrest
      exact iff_of_false hend.2.infoIs fun hboth => hstill hboth.1

/-- **What ends received information** in a time without an Announce message is a tick that finds the
port displaced: the time that has passed has no part in it. -/
theorem gone_iff_displaced (hs : ModuleAges s)
    (hreceived : (s.system.gptp.ports p).infoIs = .received)
    (htimeout : TimeoutPos (s.system.gptp.ports p)) (hquiet : ∀ input ∈ inputs, QuietOn p input)
    (hrun : Runs.run (moduleStep platform) s inputs = some s') :
    (s'.system.gptp.ports p).infoIs ≠ .received ↔
      ∃ before env after s₀, inputs = before ++ .vtssGptpTick env :: after ∧
        Runs.run (moduleStep platform) s before = some s₀ ∧ Displaced env s₀.system.gptp p := by
  rw [ne_eq, received_iff_eachStep hs hreceived htimeout hquiet hrun,
    Runs.eachStep_iff_forall hrun]
  constructor
  · intro hnot
    push Not at hnot
    obtain ⟨before, input, after, s₀, happend, hbefore, hleaves⟩ := hnot
    rw [Leaves] at hleaves
    push Not at hleaves
    obtain ⟨env, rfl, hdisplaced⟩ := hleaves
    exact ⟨before, env, after, s₀, happend, hbefore, hdisplaced⟩
  · rintro ⟨before, env, after, s₀, happend, hbefore, hdisplaced⟩ hall
    exact hall before _ after s₀ happend hbefore env rfl hdisplaced

end Gptp
