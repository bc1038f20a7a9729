/-
The information that a master port announces is the current one.

`masterPriority` and `masterStepsRemoved` change with every role selection, and a port takes
them over in the state UPDATE, some time later.  Until then `updtInfo` is set: `updtRolesTree`
sets it where the two differ from what the port holds, and no one else clears it.

* `announces_along` — in every state of every run, a port whose information is its own holds
  `masterPriority` and `masterStepsRemoved`, unless an update is due.
-/
import AvbSwitch.GptpRuns

open Octets

namespace Gptp

variable {n : ℕ} {bigEndian : Bool} {t t' : Gptpm n} {p q i : Fin n} {pp pp' : Port} {m : Mem}
  {masterStepsRemoved : UInt16} {port : ℕ} {s : PortAnnounceInformationState}

/-- Information of a port's own is what the last selection has made of it, or is to be updated. -/
def MineIsCurrent (masterStepsRemoved : UInt16) (pp : Port) : Prop :=
  pp.infoIs = .mine → pp.updtInfo = false →
    pp.portPriority = pp.masterPriority ∧ pp.portStepsRemoved = masterStepsRemoved

/-- The same for every port. -/
def AnnouncesCurrent (t : Gptpm n) : Prop :=
  ∀ i, MineIsCurrent t.masterStepsRemoved (t.ports i)

/-! ### One step -/

/-- The entry action of UPDATE is the only one that makes the information the port's own. -/
theorem MineIsCurrent.setState (hpp : MineIsCurrent masterStepsRemoved pp)
    (hset : setState masterStepsRemoved port pp s = some pp') :
    MineIsCurrent masterStepsRemoved pp' := by
  intro hmine hupdt
  cases s <;> simp only [Gptp.setState, Option.some_inj, Option.map_eq_some_iff] at hset
  case begin | disabled | aged =>
    subst hset
    cases hmine
  case update =>
    subst hset
    exact ⟨rfl, rfl⟩
  case superiorMasterPort =>
    obtain ⟨m, -, rfl⟩ := hset
    cases hmine
  case receive =>
    obtain ⟨m, -, rfl⟩ := hset
    exact hpp hmine hupdt
  all_goals
    subst hset
    exact hpp hmine hupdt

/-- The roles are assigned with `updtInfo` set where the information has changed. -/
theorem assignRole_mineIsCurrent : MineIsCurrent t.masterStepsRemoved (assignRole t i) := by
  intro hmine hupdt
  have hmaster : (t.ports i).infoIs = .mine := assignRole_infoIs.symm.trans hmine
  rw [assignRole] at hupdt ⊢
  dsimp only at hupdt ⊢
  rw [hmaster] at hupdt ⊢
  dsimp only at hupdt ⊢
  -- both comparisons found nothing to update
  split at hupdt
  case isTrue => cases hupdt
  case isFalse hsame =>
    obtain ⟨hsteps, hvector⟩ := not_or.mp hsame
    exact ⟨bmcaComparison_eq_present_iff.mp (not_not.mp hvector), not_not.mp hsteps⟩

theorem updtRolesTree_announcesCurrent : AnnouncesCurrent (updtRolesTree t) :=
  fun _ => assignRole_mineIsCurrent

theorem portRoleSelectionTurn_announcesCurrent (ht : AnnouncesCurrent t) :
    AnnouncesCurrent (portRoleSelectionTurn t) := by
  rw [portRoleSelectionTurn]
  split
  · exact ht
  · split
    · exact updtRolesTree_announcesCurrent
    · exact ht

theorem portRoleSelection_announcesCurrent (ht : AnnouncesCurrent t) :
    AnnouncesCurrent (portRoleSelection t) := by
  rw [portRoleSelection]
  split
  · exact portRoleSelectionTurn_announcesCurrent ht
  · exact portRoleSelectionTurn_announcesCurrent (portRoleSelectionTurn_announcesCurrent ht)

theorem AnnouncesCurrent.setPort (ht : AnnouncesCurrent t)
    (hpp : MineIsCurrent t.masterStepsRemoved pp) : AnnouncesCurrent (t.setPort p pp) := by
  intro i
  by_cases hi : i = p
  · rw [hi, Gptpm.setPort_ports_self]
    exact hpp
  · rw [Gptpm.setPort_ports_of_ne hi]
    exact ht i

/-- **Every step keeps it.** -/
theorem AnnouncesCurrent.step {input : Input n} (ht : AnnouncesCurrent t)
    (h : step bigEndian t input = some t') : AnnouncesCurrent t' := by
  cases input with
  | processRxAnnounce p m =>
    obtain ⟨rcvdMsg, pathTrace, pathTraceLength, rfl⟩ := processRxAnnounce_eq_with h
    exact ht.setPort (p := p) (ht p)
  | portAnnounceInformation p =>
    obtain ⟨pp, hpp, rfl⟩ := portAnnounceInformation_invariant
      (I := MineIsCurrent t.masterStepsRemoved) (fun hq _ hset => hq.setState hset) (ht p) h
    exact ht.setPort hpp
  | portRoleSelection =>
    obtain rfl := Option.some_inj.mp h
    exact portRoleSelection_announcesCurrent ht
  | _ =>
    obtain rfl := Option.some_inj.mp h
    exact ht.setPort (ht _)

/-! ### Runs -/

variable {mac : Vector UInt8 6} {systemConfig : SystemConfig} {portConfig : Fin n → PortConfig}

theorem gptpSwInit_announcesCurrent :
    AnnouncesCurrent (gptpSwInit mac (staticMemory systemConfig portConfig)) := by
  intro i hmine
  -- no information is the port's own before its machine has run
  have hinfo := portRoleSelection_sameInfo
    (t := gptpSwReset mac (staticMemory systemConfig portConfig)) (i := i)
  cases hinfo.infoIs.symm.trans hmine

/-- **What is announced is current.**  In every state that a freshly initialised instance comes
to, each port whose information is its own holds what the last selection has made of it, unless
an update is due. -/
theorem announces_along (bigEndian : Bool) (mac : Vector UInt8 6) (systemConfig : SystemConfig)
    (portConfig : Fin n → PortConfig) (inputs : List (Input n)) :
    Runs.Throughout (step bigEndian) AnnouncesCurrent
      (gptpSwInit mac (staticMemory systemConfig portConfig)) inputs :=
  fun _ _ _ hrun => Runs.run_invariant AnnouncesCurrent.step gptpSwInit_announcesCurrent hrun

end Gptp
