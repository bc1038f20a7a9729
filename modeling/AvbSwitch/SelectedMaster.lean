/-
What a role selection takes over from the port it selects: the time properties and
`masterStepsRemoved`.

The vector that `gmPriority` points to is made from `portPriority`, but
`masterStepsRemoved` from `messagePriority`, which every Announce message that is looked at
writes, whether it is taken over or not.

* `updtRolesTree_takenOver` — the values after a selection are those of the winner;
* `hopCount_along_iff` — `masterStepsRemoved` is the hop count of the vector that
  `gmPriority` points to after each selection of a run exactly if the port that is selected
  has last looked at a message with the hop count of its own vector.
-/
import AvbSwitch.BestMaster
import AvbSwitch.FrameFields

open FirstMinimum

namespace Gptp

variable {n : ℕ} {bigEndian : Bool} {t t' u : Gptpm n} {i j : Fin n} {o : Option (Fin n)}
  {pp : Port} {input : Input n} {mac : Vector UInt8 6} {systemConfig : SystemConfig}
  {portConfig : Fin n → PortConfig}

/-! ### Time properties -/

/-- What an Announce message says about the time of its grandmaster. -/
structure TimeProperties where
  currentUtcOffset : UInt16
  leap59 : UInt8
  leap61 : UInt8
  currentUtcOffsetValid : UInt8
  timeTraceable : UInt8
  frequencyTraceable : UInt8
  timeSource : UInt16
  deriving DecidableEq, Repr

/-- The variables that `recordOtherAnnounceInfo` writes. -/
def Port.timeProperties (pp : Port) : TimeProperties where
  currentUtcOffset := pp.annCurrentUtcOffset
  leap59 := pp.annleap59
  leap61 := pp.annleap61
  currentUtcOffsetValid := pp.anncurrentUtcOffsetValid
  timeTraceable := pp.anntimeTraceable
  frequencyTraceable := pp.annfrequencyTraceable
  timeSource := pp.anntimeSource

/-- The system-wide variables. -/
def Gptpm.timeProperties (t : Gptpm n) : TimeProperties where
  currentUtcOffset := t.currentUtcOffset
  leap59 := t.leap59
  leap61 := t.leap61
  currentUtcOffsetValid := t.currentUtcOffsetValid
  timeTraceable := t.timeTraceable
  frequencyTraceable := t.frequencyTraceable
  timeSource := t.timeSource

/-! ### What is taken over -/

/-- The time properties after the ports up to port `o` are considered. -/
def Gptpm.timePropertiesOf (t : Gptpm n) : Option (Fin n) → TimeProperties
  | none => t.timeProperties
  | some i => (t.ports i).timeProperties

/-- `masterStepsRemoved` after the ports up to port `o` are considered. -/
def Gptpm.masterStepsRemovedOf (t : Gptpm n) : Option (Fin n) → UInt16
  | none => 0
  | some i => UInt16.ofNat ((t.ports i).messagePriority.stepsRemoved.get + 1)

/-- The instance has taken over the variables of port `o`, or none. -/
structure TakenOver (t : Gptpm n) (o : Option (Fin n)) (u : Gptpm n) : Prop where
  timeProperties : u.timeProperties = t.timePropertiesOf o
  masterStepsRemoved : u.masterStepsRemoved = t.masterStepsRemovedOf o

theorem computeGmPathPriority_timeProperties {gmPresent : Bool} :
    (computeGmPathPriority gmPresent pp).timeProperties = pp.timeProperties := by
  rw [computeGmPathPriority]
  split <;> rfl

theorem computeGmPathPriority_messagePriority {gmPresent : Bool} :
    (computeGmPathPriority gmPresent pp).messagePriority = pp.messagePriority := by
  rw [computeGmPathPriority]
  split <;> rfl

theorem TakenOver.considerPort (hbest : BestSoFar t o u) (h : TakenOver t o u) :
    TakenOver t (better t.systemPriority.value (fun i => (t.gmPath i).value) (Foreign t) o i)
      (Gptp.considerPort u i) := by
  have htime : (u.ports i).timeProperties = (t.ports i).timeProperties := by
    rw [hbest.ports, computeGmPathPriority_timeProperties]
  have hsteps : (u.ports i).messagePriority = (t.ports i).messagePriority := by
    rw [hbest.ports, computeGmPathPriority_messagePriority]
  rw [hbest.better_eq, Gptp.considerPort]
  split_ifs
  · exact ⟨htime, congrArg (fun v => UInt16.ofNat (v.stepsRemoved.get + 1)) hsteps⟩
  · exact h
  · exact h

theorem TakenOver.foldl (hbest : BestSoFar t o u) (h : TakenOver t o u) {l : List (Fin n)} :
    TakenOver t
      (l.foldl (better t.systemPriority.value (fun i => (t.gmPath i).value) (Foreign t)) o)
      (l.foldl Gptp.considerPort u) := by
  induction l generalizing o u with
  | nil => exact h
  | cons i l ih => exact ih hbest.considerPort (h.considerPort hbest)

/-- **A selection takes over the variables of the winner.** -/
theorem updtRolesTree_takenOver : TakenOver t (winner t) (updtRolesTree t) := by
  have hbest : BestSoFar t none
      { computePaths t with gmPriority := .systemPriority, masterStepsRemoved := 0 } :=
    ⟨rfl, rfl, rfl⟩
  have htaken : TakenOver t (winner t) (updateGmPriority (computePaths t)) :=
    TakenOver.foldl hbest ⟨rfl, rfl⟩
  exact ⟨htaken.timeProperties, htaken.masterStepsRemoved⟩

/-! ### What a selection leaves alone -/

/-- What no port changes when it is considered, the loop over the ports does not change. -/
theorem updateGmPriority_kept {β : Type*} {f : Gptpm n → β}
    (hf : ∀ u i, f (considerPort u i) = f u) (u : Gptpm n) :
    f (updateGmPriority u) = f { u with gmPriority := .systemPriority, masterStepsRemoved := 0 } := by
  have hfold : ∀ (l : List (Fin n)) (u : Gptpm n), f (l.foldl considerPort u) = f u := by
    intro l
    induction l with
    | nil => intro u; rfl
    | cons i l ih => intro u; exact (ih (considerPort u i)).trans (hf u i)
  exact hfold _ _

theorem updtRolesTree_portRoleSelectionState :
    (updtRolesTree t).portRoleSelectionState = t.portRoleSelectionState := by
  refine updateGmPriority_kept (f := fun u => u.portRoleSelectionState) (fun u i => ?_)
    (computePaths t)
  rw [considerPort]
  split_ifs <;> rfl

theorem portRoleSelection_of_selects (h : Selects t input) :
    portRoleSelection t = setSelectedTree (updtRolesTree (clearReselectTree t)) := by
  cases input with
  | portRoleSelection =>
    have hturn : portRoleSelectionTurn t = setSelectedTree (updtRolesTree (clearReselectTree t)) := by
      rw [portRoleSelectionTurn, h.1, if_pos h.2]
    have hstate : t.portRoleSelectionState =
        (setSelectedTree (updtRolesTree (clearReselectTree t))).portRoleSelectionState :=
      (updtRolesTree_portRoleSelectionState (t := clearReselectTree t)).symm
    rw [portRoleSelection, hturn]
    exact if_pos hstate
  | _ => exact absurd h id

theorem portRoleSelection_of_not_reselecting (hstate : t.portRoleSelectionState = .roleSelection)
    (h : ¬ Reselecting t) : portRoleSelection t = t := by
  have hturn : portRoleSelectionTurn t = t := by
    rw [portRoleSelectionTurn, hstate, if_neg h]
  rw [portRoleSelection, hturn]
  exact if_pos rfl

theorem assignRole_timeProperties : (assignRole t i).timeProperties = (t.ports i).timeProperties := by
  rw [assignRole]
  split
  case h_4 => split_ifs <;> rfl
  all_goals rfl

theorem updtRolesTree_port_timeProperties :
    ((updtRolesTree t).ports i).timeProperties = (t.ports i).timeProperties := by
  rw [updtRolesTree_ports, assignRole_timeProperties, updateGmPriority_best.ports]
  exact computeGmPathPriority_timeProperties

/-! ### The hop count -/

theorem step_systemPriority (h : step bigEndian t input = some t') :
    t'.systemPriority = t.systemPriority := by
  cases input with
  | processRxAnnounce p m => exact (processRxAnnounce_eq h).1
  | portAnnounceInformation p =>
    obtain ⟨pp, -, rfl⟩ := Option.map_eq_some_iff.mp h
    rfl
  | portRoleSelection =>
    obtain rfl := Option.some_inj.mp h
    exact portRoleSelection_systemPriority
  | _ => exact Option.some_inj.mp h ▸ rfl

/-- `masterStepsRemoved` is the hop count of the vector that `gmPriority` points to. -/
def HopCountAgrees (t : Gptpm n) : Prop :=
  t.masterStepsRemoved.toNat = t.gmPriorityVector.stepsRemoved.get

/-- Port `i` is the one that a selection selects. -/
def Chosen (t : Gptpm n) (i : Fin n) : Prop :=
  Candidate t i ∧ ∀ j, Candidate t j → j ≠ i → Precedes t i j

/-- The port that is selected has last looked at a message with the hop count of the vector
that it holds. -/
def HopCountKept (t : Gptpm n) : Prop :=
  ∀ i, Chosen t i →
    (t.ports i).messagePriority.stepsRemoved = (t.ports i).portPriority.stepsRemoved

theorem winner_eq_some_iff (ht : Sound t) : winner t = some i ↔ Chosen t i := by
  constructor
  · exact winner_candidate ht
  · rintro ⟨hi, hfirst⟩
    match hw : winner t with
    | none => exact absurd hi ((winner_eq_none_iff ht).mp hw i)
    | some j =>
      obtain ⟨hj, hjfirst⟩ := winner_candidate ht hw
      by_contra hne
      have hij : i ≠ j := fun h => hne (h ▸ rfl)
      exact (hfirst j hj hij.symm).asymm (hjfirst i hi hij)

theorem assignRole_gmPathPriority : (assignRole t i).gmPathPriority = (t.ports i).gmPathPriority := by
  rw [assignRole]
  split
  case h_4 => split_ifs <;> rfl
  all_goals rfl

/-- The vector that `gmPriority` points to after a selection. -/
theorem updtRolesTree_gmPriorityVector :
    (updtRolesTree t).gmPriorityVector =
      match winner t with
      | none => t.systemPriority
      | some i => t.gmPath i := by
  rw [Gptpm.gmPriorityVector, updtRolesTree_gmPriority]
  cases winner t with
  | none => exact updtRolesTree_systemPriority
  | some i =>
    show ((updtRolesTree t).ports i).gmPathPriority = t.gmPath i
    rw [updtRolesTree_ports, assignRole_gmPathPriority, updateGmPriority_best.ports]
    rfl

/-- The one step that both counts add wraps around in the same way. -/
theorem hopCount_succ_iff {s s' : Short} :
    (UInt16.ofNat (s.get + 1)).toNat = (Short.put (s'.get + 1)).get ↔ s = s' := by
  have hs := @Short.get_lt s
  have hs' := @Short.get_lt s'
  rw [UInt16.toNat_ofNat', Short.get_put_mod, ← Short.get_inj]
  omega

theorem hopCountAgrees_iff (ht : Sound t) (hsystem : t.systemPriority.stepsRemoved = .put 0) :
    HopCountAgrees (updtRolesTree t) ↔ HopCountKept t := by
  rw [HopCountAgrees, updtRolesTree_takenOver.masterStepsRemoved, updtRolesTree_gmPriorityVector]
  match hw : winner t with
  | none =>
    have hnone : HopCountKept t := fun i hi =>
      absurd ((winner_eq_some_iff ht).mpr hi) (hw ▸ nofun)
    refine iff_of_true ?_ hnone
    show (0 : UInt16).toNat = t.systemPriority.stepsRemoved.get
    rw [hsystem]
    rfl
  | some i =>
    have hi : Chosen t i := (winner_eq_some_iff ht).mp hw
    show (UInt16.ofNat ((t.ports i).messagePriority.stepsRemoved.get + 1)).toNat =
      (t.gmPath i).stepsRemoved.get ↔ _
    -- the path vector has one step more than `portPriority`, and `masterStepsRemoved` one more
    -- than `messagePriority`
    rw [gmPath_eq_of_not_timedOut hi.1.1, oneStepFurther, hopCount_succ_iff]
    constructor
    · intro hkept j hj
      have hji : j = i :=
        Option.some_inj.mp (((winner_eq_some_iff ht).mpr hj).symm.trans hw)
      rw [hji]
      exact hkept
    · exact fun hkept => hkept i hi

theorem gptpSwInit_systemPriority :
    (gptpSwInit mac (staticMemory systemConfig portConfig)).systemPriority =
      systemPriorityOf mac systemConfig :=
  portRoleSelection_systemPriority

theorem hopCountKept_clearReselectTree :
    HopCountKept (clearReselectTree t) ↔ HopCountKept t := Iff.rfl

/-- **The hop count along a run.**  From `gptp_sw_init` on, `masterStepsRemoved` is the hop
count of the selected vector after every selection exactly if the port that is selected has
each time looked last at a message with the hop count of its own vector. -/
theorem hopCount_along_iff (bigEndian : Bool) (mac : Vector UInt8 6) (systemConfig : SystemConfig)
    (portConfig : Fin n → PortConfig) (inputs : List (Input n)) :
    Runs.AtEach (step bigEndian)
        (fun t input => Selects t input → HopCountAgrees (updtRolesTree (clearReselectTree t)))
        (gptpSwInit mac (staticMemory systemConfig portConfig)) inputs ↔
      Runs.AtEach (step bigEndian) (fun t input => Selects t input → HopCountKept t)
        (gptpSwInit mac (staticMemory systemConfig portConfig)) inputs := by
  -- the system's own vector stays what it was made by `gptp_sw_init`
  refine Runs.atEach_congr
    (K := fun t => Sound t ∧ t.systemPriority = systemPriorityOf mac systemConfig)
    (fun hs h => ⟨hs.1.step h, (step_systemPriority h).trans hs.2⟩) (fun input _ t ht => ?_)
    ⟨gptpSwInit_sound, gptpSwInit_systemPriority⟩
  refine imp_congr_right fun _ => ?_
  have hsystem : (clearReselectTree t).systemPriority.stepsRemoved = .put 0 :=
    congrArg (·.stepsRemoved) ht.2
  rw [hopCountAgrees_iff ht.1.clearReselectTree hsystem, hopCountKept_clearReselectTree]

/-! ### A hop count that is overwritten -/

/-- An inferior message on the port that has received the superior one: its grandmaster has
priority 200, and it is seven hops away. -/
def inferiorAnnounce : Octets.Mem := fun k =>
  if k = 47 then 200 else if k = 62 then 7 else if k = 20 ∨ k = 53 then 1 else 0

/-- A message on the other port, with the same grandmaster, that asks for a selection. -/
def equalAnnounce : Octets.Mem := fun k =>
  if k = 47 then 100 else if k = 20 then 2 else if k = 53 then 1 else 0

/-- The ports of a system with two. -/
def port0 : Fin 2 := ⟨0, Nat.two_pos⟩

def port1 : Fin 2 := ⟨1, Nat.one_lt_two⟩

/-- Port 0 receives a superior message and becomes the slave port. -/
def becomesSlave (m : Octets.Mem) : List (Input 2) :=
  [.portAnnounceInformation port0, .portAnnounceInformation port1, .portRoleSelection,
    .portAnnounceInformation port0, .portAnnounceInformation port1,
    .processRxAnnounce port0 m, .portAnnounceInformation port0, .portRoleSelection]

/-- Then it receives an inferior one, and port 1 asks for another selection. -/
def inferiorAfterSuperior : List (Input 2) :=
  becomesSlave superiorAnnounce ++
    [.portAnnounceInformation port0, .portAnnounceInformation port1,
      .processRxAnnounce port0 inferiorAnnounce, .portAnnounceInformation port0,
      .processRxAnnounce port1 equalAnnounce, .portAnnounceInformation port1]

/-- **The hop count of a rejected message is taken over.**  The selected vector is one hop away,
but `masterStepsRemoved` is eight. -/
theorem inferior_hopCount_taken :
    ¬ Runs.AtEach (step true)
        (fun t input => Selects t input → HopCountAgrees (updtRolesTree (clearReselectTree t)))
        (gptpSwInit #v[0x00, 0x0A, 0x35, 0x00, 0x22, 0xFF]
          (staticMemory ⟨248, 248⟩ fun _ => ⟨3, 3⟩))
        (inferiorAfterSuperior ++ [.portRoleSelection]) := by
  intro h
  have hrun : (Runs.run (step true)
      (gptpSwInit #v[0x00, 0x0A, 0x35, 0x00, 0x22, 0xFF]
        (staticMemory ⟨248, 248⟩ fun _ => ⟨3, 3⟩)) inferiorAfterSuperior).map
      (fun t => (t.portRoleSelectionState, decide (Reselecting t),
        (updtRolesTree (clearReselectTree t)).masterStepsRemoved.toNat,
        (updtRolesTree (clearReselectTree t)).gmPriorityVector.stepsRemoved.get)) =
      some (.roleSelection, true, 8, 1) := by
    decide +kernel
  obtain ⟨t, ht, heq⟩ := Option.map_eq_some_iff.mp hrun
  simp only [Prod.mk.injEq, decide_eq_true_iff] at heq
  obtain ⟨hstate, hreselect, hmaster, hvector⟩ := heq
  have hagrees := h.last ht ⟨hstate, hreselect⟩
  rw [HopCountAgrees, hmaster, hvector] at hagrees
  exact absurd hagrees nofun

end Gptp
