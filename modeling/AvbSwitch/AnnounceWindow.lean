/-
The Announce messages that come in between two ticks.

Reception keeps no more than a pointer to the last message and a flag, and the machine runs in
the next tick.  So of the messages that were accepted only the last one can count, and only if it
is the last one that came in at all.

* `processRxAnnounce_rcvdMsg` — the flag is what `qualifyAnnounce` says of the last message;
* `keepsBest_iff` — after the tick the port holds a vector that is no worse than those of all
  messages that were accepted, exactly if what it holds anyway is, or the last message.
-/
import AvbSwitch.GptpTick

open Octets

namespace Gptp

variable {n : ℕ} {platform : Platform} {s s₁ s' : GptpModule n} {t t' : Gptpm n} {p i : Fin n}
  {pp r : Port} {m : Mem} {ms : List Mem} {env : TickEnv n} {bigEndian : Bool}

/-! ### Reception -/

/-- A message comes in on port `p`. -/
def announceReception (platform : Platform) (p : Fin n) (s : GptpModule n) (m : Mem) :
    Option (GptpModule n) :=
  moduleStep platform s (.processRxAnnounce p m)

/-- What `qualifyAnnounce` says of a message. -/
def qualified (bigEndian : Bool) (t : Gptpm n) (p : Fin n) (m : Mem) : Prop :=
  (qualifyAnnounce bigEndian t p m).map Prod.snd = some true

/-- `m` is one of the messages that came in, and it was accepted. -/
def AcceptedOf (platform : Platform) (p : Fin n) (s : GptpModule n) (ms : List Mem) (m : Mem) :
    Prop :=
  ∃ before after s₀, ms = before ++ m :: after ∧
    Runs.run (announceReception platform p) s before = some s₀ ∧
    qualified platform.host.bigEndian s₀.system.gptp p m

/-- The answer does not depend on the pointer. -/
theorem qualifyAnnounce_answer {ptr : Option Mem} :
    (qualifyAnnounce bigEndian (t.setPort p { t.ports p with rcvdAnnouncePtr := ptr }) p m).map
        Prod.snd =
      (qualifyAnnounce bigEndian t p m).map Prod.snd := by
  simp only [qualifyAnnounce, Gptpm.setPort_systemPriority, Gptpm.setPort_ports_self]
  split_ifs <;> rfl

/-- **The flag is what `qualifyAnnounce` says** of the message that came in last. -/
theorem processRxAnnounce_rcvdMsg (hop : (t.ports p).operational)
    (h : processRxAnnounce bigEndian t p m = some t') :
    (t'.ports p).rcvdMsg = true ↔ qualified bigEndian t p m := by
  have hop' : ((t.setPort p { t.ports p with rcvdAnnouncePtr := some m }).ports p).operational := by
    rw [Gptpm.setPort_ports_self]
    exact hop
  rw [processRxAnnounce, portAnnounceReceive, if_pos hop'] at h
  obtain ⟨⟨u, answer⟩, hu, rfl⟩ := Option.map_eq_some_iff.mp h
  rw [qualified, ← @qualifyAnnounce_answer n t p m bigEndian (some m), hu,
    Gptpm.setPort_ports_self, Option.map_some, Option.some_inj]

/-- A port with what it has last received. -/
def Port.withReceived (pp : Port) (ptr : Option Mem) (rcvdMsg : Bool) : Port :=
  { pp with rcvdAnnouncePtr := ptr, rcvdMsg := rcvdMsg }

/-- Nothing else is changed that the port could see. -/
structure Received (p : Fin n) (s s' : GptpModule n) : Prop where
  currentSm : s'.currentSm = s.currentSm
  adminEnabled : s'.adminEnabled = s.adminEnabled
  port : ∃ ptr rcvdMsg, s'.system.gptp.ports p = (s.system.gptp.ports p).withReceived ptr rcvdMsg

theorem announceReception_received (h : announceReception platform p s m = some s') :
    Received p s s' := by
  obtain ⟨t, ht, rfl⟩ := Option.map_eq_some_iff.mp h
  obtain ⟨-, -, rcvdMsg, hport⟩ := processRxAnnounce_eq ht
  exact ⟨rfl, rfl, some m, rcvdMsg, hport⟩

theorem run_received (h : Runs.run (announceReception platform p) s ms = some s') :
    Received p s s' := by
  refine Runs.run_invariant (I := Received p s) (fun hreceived hstep => ?_)
    ⟨rfl, rfl, (s.system.gptp.ports p).rcvdAnnouncePtr, (s.system.gptp.ports p).rcvdMsg, rfl⟩ h
  have hone := announceReception_received hstep
  obtain ⟨ptr, rcvdMsg, hport⟩ := hreceived.port
  obtain ⟨ptr', rcvdMsg', hport'⟩ := hone.port
  refine ⟨hone.currentSm.trans hreceived.currentSm, hone.adminEnabled.trans hreceived.adminEnabled,
    ptr', rcvdMsg', ?_⟩
  rw [hport', hport]
  rfl

/-! ### The tick -/

/-- Every port is selected. -/
theorem portRoleSelection_selected (h : Reselecting t) :
    ((portRoleSelection t).ports i).selected = true := by
  rw [portRoleSelection]
  cases hstate : t.portRoleSelectionState with
  | initBridge =>
    have hturn : portRoleSelectionTurn t =
        { updtRoleDisabledTree t with portRoleSelectionState := .roleSelection } := by
      rw [portRoleSelectionTurn, hstate]
    have hagain : Reselecting
        { updtRoleDisabledTree t with portRoleSelectionState := .roleSelection } := h
    rw [hturn, if_neg PortRoleSelectionState.noConfusion, portRoleSelectionTurn]
    dsimp only
    rw [if_pos hagain]
    rfl
  | roleSelection =>
    have hselects : Selects t (Input.portRoleSelection : Input n) := ⟨hstate, h⟩
    have hselected := portRoleSelection_of_selects hselects
    rw [portRoleSelection, hstate] at hselected
    rw [hselected]
    rfl

theorem selectRoles_sameInfo : SameInfo (t.ports i) ((selectRoles t).ports i) := by
  rw [selectRoles]
  split
  · exact portRoleSelection_sameInfo
  · exact .refl

/-- A port is found with the information that it had before the tick. -/
theorem found_sameInfo : SameInfo (t.ports p) (found env t p) :=
  selectRoles_sameInfo.trans ⟨rfl, rfl, rfl, rfl, rfl⟩

/-- If an update is asked for in the tick, it is also allowed. -/
theorem found_selected
    (hupdt : (t.ports p).updtInfo → (t.ports p).selected ∨ (t.ports p).reselect)
    (h : (found env t p).updtInfo) : (found env t p).selected := by
  have hselected : ((selectRoles t).ports p).updtInfo → ((selectRoles t).ports p).selected := by
    rw [selectRoles]
    split
    case isTrue hreselect => exact fun _ => portRoleSelection_selected hreselect
    case isFalse hreselect =>
      exact fun hupdt' => (hupdt hupdt').resolve_right fun hport => hreselect ⟨p, hport⟩
  exact hselected h

/-- What the port holds after the tick if no message counts. -/
def Port.base (pp : Port) : PriorityVector := if pp.operational then pp.held.1 else .memset 0xFF

/-- **What a tick leaves in a port**: the message that came in last is taken, if it was accepted
and is better than what the port holds anyway. -/
theorem ticked_portPriority (hstate : (t.ports p).portAnnounceInformationState = .current)
    (hupdt : (t.ports p).updtInfo = false) (h : Ticked env t t') :
    (t'.ports p).portPriority =
      if (found env t p).operational then ((found env t p).taken p).1 else .memset 0xFF := by
  obtain ⟨newInfo, hrests⟩ := h.ports p
  have hstate' : ((found env t p).withNewInfo newInfo).portAnnounceInformationState = .current :=
    (@found_sameInfo n t p env).state.trans hstate
  cases hop : (found env t p).operational
  · have hop' : ((found env t p).withNewInfo newInfo).operational = false := hop
    have hdisabled : ((found env t p).withNewInfo newInfo).portAnnounceInformationState ≠
        .disabled := by
      rw [hstate']
      exact PortAnnounceInformationState.noConfusion
    exact (Prod.mk.inj (hrests.of_not_operational hop' hdisabled).1).1
  · have hcur : InCurrent ((found env t p).withNewInfo newInfo) := ⟨hop, hstate'⟩
    have hallowed : ((found env t p).withNewInfo newInfo).updtInfo →
        ((found env t p).withNewInfo newInfo).selected :=
      @found_selected n t p env fun hdue => absurd (hupdt.symm.trans hdue) Bool.false_ne_true
    exact (hrests.of_current hcur hallowed).1

/-! ### The best message -/

/-- The message that came in last was accepted. -/
def LastAccepted (platform : Platform) (p : Fin n) (s : GptpModule n) (ms : List Mem) (m : Mem) :
    Prop :=
  ∃ before s₀, ms = before ++ [m] ∧ Runs.run (announceReception platform p) s before = some s₀ ∧
    qualified platform.host.bigEndian s₀.system.gptp p m

/-- The port is found with the message that came in last, and the answer to it. -/
theorem found_withReceived (hop : (s.system.gptp.ports p).operational)
    (hrun : Runs.run (announceReception platform p) s (ms ++ [m]) = some s₁) :
    (found env s₁.system.gptp p).rcvdAnnouncePtr = some m ∧
      ((found env s₁.system.gptp p).rcvdMsg = true ↔ LastAccepted platform p s (ms ++ [m]) m) := by
  obtain ⟨s₀, hbefore, hlast⟩ := Runs.run_append_eq_some.mp hrun
  rw [Runs.run_singleton] at hlast
  obtain ⟨t, ht, rfl⟩ := Option.map_eq_some_iff.mp hlast
  have hop₀ : (s₀.system.gptp.ports p).operational := by
    obtain ⟨ptr, rcvdMsg, hport⟩ := (run_received hbefore).port
    rw [hport]
    exact hop
  obtain ⟨-, -, rcvdMsg, hport⟩ := processRxAnnounce_eq ht
  have hinfo : SameInfo (t.ports p) (found env t p) := found_sameInfo
  refine ⟨?_, ?_⟩
  · show (found env t p).rcvdAnnouncePtr = some m
    rw [hinfo.rcvdAnnouncePtr, hport]
  · show (found env t p).rcvdMsg = true ↔ _
    rw [hinfo.rcvdMsg, processRxAnnounce_rcvdMsg hop₀ ht]
    constructor
    · intro hqualified
      exact ⟨ms, s₀, rfl, hbefore, hqualified⟩
    · rintro ⟨before, s₀', hms, hbefore', hqualified⟩
      obtain ⟨rfl, -⟩ := List.append_inj' hms rfl
      rw [hbefore] at hbefore'
      exact Option.some_inj.mp hbefore' ▸ hqualified

/-- **No accepted Announce is lost between two ticks**, exactly if what the port holds anyway is no
worse than it, or the message that came in last was accepted and is no worse. -/
theorem keepsBest_iff (platform : Platform) (env : TickEnv n) (s s₁ s' : GptpModule n) (p : Fin n)
    (ms : List Mem) (hsm : s.currentSm = false) (hadmin : s.adminEnabled = true)
    (hcur : InCurrent (s.system.gptp.ports p)) (hupdt : (s.system.gptp.ports p).updtInfo = false)
    (hrun : Runs.run (announceReception platform p) s ms = some s₁)
    (htick : vtssGptpTick platform.host env s₁ = some s') :
    (∀ m, AcceptedOf platform p s ms m →
        (s'.system.gptp.ports p).portPriority.value ≤ (extractAnnounce m p).value) ↔
      ∀ m, AcceptedOf platform p s ms m →
        (found env s₁.system.gptp p).base.value ≤ (extractAnnounce m p).value ∨
          (found env s₁.system.gptp p).operational ∧ ∃ last, LastAccepted platform p s ms last ∧
            (extractAnnounce last p).value ≤ (extractAnnounce m p).value := by
  have hreceived := run_received hrun
  obtain ⟨ptr, rcvdMsg, hport⟩ := hreceived.port
  obtain ⟨-, hticked⟩ := vtssGptpTick_ticked (hreceived.currentSm.trans hsm)
    (hreceived.adminEnabled.trans hadmin) htick
  have hvector := ticked_portPriority (by rw [hport]; exact hcur.state)
    (by rw [hport]; exact hupdt) hticked
  refine forall_congr' fun m => forall_congr' fun haccepted => ?_
  -- a message was accepted, so that there is a last one
  obtain ⟨before, last, rfl⟩ : ∃ before last, ms = before ++ [last] := by
    rcases List.eq_nil_or_concat ms with rfl | ⟨before, last, rfl⟩
    · obtain ⟨before, after, -, hms, -⟩ := haccepted
      exact absurd hms (by simp)
    · exact ⟨before, last, List.concat_eq_append⟩
  obtain ⟨hptr, hmsg⟩ := @found_withReceived n platform s s₁ p last before env hcur.operational hrun
  have hlast : (∃ last', LastAccepted platform p s (before ++ [last]) last' ∧
      (extractAnnounce last' p).value ≤ (extractAnnounce m p).value) ↔
        (found env s₁.system.gptp p).rcvdMsg = true ∧
          (extractAnnounce last p).value ≤ (extractAnnounce m p).value := by
    rw [hmsg]
    constructor
    · rintro ⟨last', haccepted', hle⟩
      have hms := haccepted'.choose_spec.choose_spec.1
      obtain rfl : last = last' := by simpa using (List.append_inj' hms rfl).2
      exact ⟨haccepted', hle⟩
    · rintro ⟨haccepted', hle⟩
      exact ⟨last, haccepted', hle⟩
  rw [hlast, hvector, Port.base]
  cases hop : (found env s₁.system.gptp p).operational
  · simp only [Bool.false_eq_true, if_false, false_and, or_false]
  · -- the smaller one of two vectors is no worse than a third one if one of them is not
    simp only [if_true, true_and, Port.taken, hptr]
    split_ifs with hbetter
    · exact ⟨fun hle => Or.inr ⟨hbetter.1, hle⟩, fun hor =>
        hor.elim (fun hle => hbetter.2.le.trans hle) And.right⟩
    · refine ⟨Or.inl, fun hor => hor.elim id fun hboth => ?_⟩
      exact (not_lt.mp fun hlt => hbetter ⟨hboth.1, hlt⟩).trans hboth.2

/-! ### A message that is lost -/

def examplePlatform : Platform := ⟨bigEndianHost, exampleMac, ⟨0, 0, 1⟩⟩

/-- The delay of the link is measured. -/
def capableVerdict : DelayVerdict := ⟨true, true, 3, 0x80000000, 0, true, fun _ => 0⟩

/-- A tick in which all ports are capable. -/
def capableTick : TickEnv 8 := ⟨fun _ => atBoot, fun _ => atBoot, fun _ => capableVerdict⟩

def exampleModule : GptpModule 8 := .staticMemory ⟨248, 248⟩ (fun _ => ⟨3, 3⟩) fun _ => 0

def firstPort : Fin 8 := ⟨0, Nat.succ_pos 7⟩

/-- After two ticks whose verdict is that they are capable, the ports are master ports. -/
def comesUpAsMaster : List (ModuleInput 8) :=
  [.vtssGptpInit, .vtssGptpTick capableTick, .vtssGptpTick capableTick]

/-- A message of a good grandmaster, and one of another that is not as good. -/
def goodThenWorse : List Mem := [announceFrom 50 1, announceFrom 100 2]

/-- Both messages are accepted, and then there is a tick. -/
theorem goodThenWorse_run : ∃ s s₁ s',
    Runs.run (moduleStep examplePlatform) exampleModule comesUpAsMaster = some s ∧
      Runs.run (announceReception examplePlatform firstPort) s goodThenWorse = some s₁ ∧
      vtssGptpTick examplePlatform.host capableTick s₁ = some s' ∧
      (s.currentSm = false ∧ s.adminEnabled = true ∧ InCurrent (s.system.gptp.ports firstPort) ∧
        (s.system.gptp.ports firstPort).updtInfo = false) ∧
      qualified examplePlatform.host.bigEndian s.system.gptp firstPort (announceFrom 50 1) ∧
      (extractAnnounce (announceFrom 50 1) firstPort).value <
        (s'.system.gptp.ports firstPort).portPriority.value := by
  have hrun : ((Runs.run (moduleStep examplePlatform) exampleModule comesUpAsMaster).bind fun s =>
      (Runs.run (announceReception examplePlatform firstPort) s goodThenWorse).bind fun s₁ =>
        (vtssGptpTick examplePlatform.host capableTick s₁).map fun s' =>
          decide ((s.currentSm = false ∧ s.adminEnabled = true ∧
              (s.system.gptp.ports firstPort).operational = true ∧
              (s.system.gptp.ports firstPort).portAnnounceInformationState = .current ∧
              (s.system.gptp.ports firstPort).updtInfo = false) ∧
            (qualifyAnnounce examplePlatform.host.bigEndian s.system.gptp firstPort
              (announceFrom 50 1)).map Prod.snd = some true ∧
            (extractAnnounce (announceFrom 50 1) firstPort).value <
              (s'.system.gptp.ports firstPort).portPriority.value)) = some true := by
    decide +kernel
  obtain ⟨s, hs, h⟩ := Option.bind_eq_some_iff.mp hrun
  obtain ⟨s₁, hs₁, h⟩ := Option.bind_eq_some_iff.mp h
  obtain ⟨s', hs', h⟩ := Option.map_eq_some_iff.mp h
  obtain ⟨⟨hsm, hadmin, hop, hstate, hupdt⟩, hqualified, hlt⟩ := of_decide_eq_true h
  exact ⟨s, s₁, s', hs, hs₁, hs', ⟨hsm, hadmin, ⟨hop, hstate⟩, hupdt⟩, hqualified, hlt⟩

/-- **The good message is lost**: the other one has taken its place before the tick. -/
theorem good_announce_lost : ∃ s s₁ s',
    Runs.run (moduleStep examplePlatform) exampleModule comesUpAsMaster = some s ∧
      Runs.run (announceReception examplePlatform firstPort) s goodThenWorse = some s₁ ∧
      vtssGptpTick examplePlatform.host capableTick s₁ = some s' ∧
      ¬ ∀ m, AcceptedOf examplePlatform firstPort s goodThenWorse m →
        (s'.system.gptp.ports firstPort).portPriority.value ≤ (extractAnnounce m firstPort).value := by
  obtain ⟨s, s₁, s', hs, hs₁, hs', -, hqualified, hlt⟩ := goodThenWorse_run
  refine ⟨s, s₁, s', hs, hs₁, hs', fun h => hlt.not_ge (h _ ?_)⟩
  exact ⟨[], [announceFrom 100 2], s, rfl, rfl, hqualified⟩

theorem keepsBest_goodThenWorse : ∃ s s₁ s',
    Runs.run (announceReception examplePlatform firstPort) s goodThenWorse = some s₁ ∧
      vtssGptpTick examplePlatform.host capableTick s₁ = some s' ∧
      ((∀ m, AcceptedOf examplePlatform firstPort s goodThenWorse m →
          (s'.system.gptp.ports firstPort).portPriority.value ≤
            (extractAnnounce m firstPort).value) ↔
        ∀ m, AcceptedOf examplePlatform firstPort s goodThenWorse m →
          (found capableTick s₁.system.gptp firstPort).base.value ≤
              (extractAnnounce m firstPort).value ∨
            (found capableTick s₁.system.gptp firstPort).operational ∧
              ∃ last, LastAccepted examplePlatform firstPort s goodThenWorse last ∧
                (extractAnnounce last firstPort).value ≤ (extractAnnounce m firstPort).value) := by
  obtain ⟨s, s₁, s', -, hs₁, hs', ⟨hsm, hadmin, hcur, hupdt⟩, -⟩ := goodThenWorse_run
  exact ⟨s, s₁, s', hs₁, hs',
    keepsBest_iff examplePlatform capableTick s s₁ s' firstPort goodThenWorse hsm hadmin hcur hupdt
      hs₁ hs'⟩

end Gptp
