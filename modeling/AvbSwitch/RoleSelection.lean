/-
PortRoleSelection (802.1AS, 10.3.12).

`updtRolesTree` computes the path vectors, looks for the best one, gives each port its
role and concludes with the path trace and the grandmaster flag.

* `updtRolesTree_gmPriority` — `gmPriority` points to the first of the smallest path
  vectors that have a foreign root and beat the system's own vector (`winner`), or to the
  system's own vector if there is none;
* `updtRolesTree_slave_iff` — the slave port is the one that `gmPriority` points to,
  if its information is received.
-/
import AvbSwitch.FirstMinimum
import AvbSwitch.GptpState

open FirstMinimum

namespace Gptp

variable {n : ℕ}

/-! ### The functions -/

/-- `updtRoleDisabledTree`. -/
def updtRoleDisabledTree (t : Gptpm n) : Gptpm n :=
  { t with
    ports := fun i => { t.ports i with selectedRole := .disabled }
    lastGmPriority := .memset 0xFF
    gmPriority := .lastGmPriority
    pathTraceLength := 1
    pathTrace := fun k =>
      if k = ⟨0, maxPathTrace_pos⟩ then t.systemPriority.rootSystemIdentity.clockIdentity
      else t.pathTrace k }

/-- `clearReselectTree`. -/
def clearReselectTree (t : Gptpm n) : Gptpm n :=
  { t with ports := fun i => { t.ports i with reselect := false } }

/-- The path vector of one port. -/
def computeGmPathPriority (gmPresent : Bool) (pp : Port) : Port :=
  if !pp.announceTimeout && (!gmPresent || !pp.syncTimeout) then
    { pp with
      gmPathPriority :=
        { pp.portPriority with stepsRemoved := .put (pp.portPriority.stepsRemoved.get + 1) } }
  else
    { pp with
      gmPathPriority := .memset 0xFF
      syncTimeoutCounter := if pp.syncTimeout then 0 else pp.syncTimeoutCounter }

/-- The first part of `updtRolesTree`: the last grandmaster is kept, and the path vectors
are computed. -/
def computePaths (t : Gptpm n) : Gptpm n :=
  { t with
    lastGmPriority := t.gmPriorityVector
    ports := fun i => computeGmPathPriority t.gmPresent (t.ports i) }

/-- A port's path vector is compared with the best one so far. -/
def considerPort (t : Gptpm n) (i : Fin n) : Gptpm n :=
  if compareClockIdentity t.systemPriority.rootSystemIdentity.clockIdentity
      (t.ports i).gmPathPriority.rootSystemIdentity.clockIdentity ≠ .eq then
    if bmcaComparison t.gmPriorityVector (t.ports i).gmPathPriority = .replacePresentMaster then
      { t with
        gmPriority := .gmPathPriority i
        leap61 := (t.ports i).annleap61
        leap59 := (t.ports i).annleap59
        currentUtcOffsetValid := (t.ports i).anncurrentUtcOffsetValid
        timeTraceable := (t.ports i).anntimeTraceable
        frequencyTraceable := (t.ports i).annfrequencyTraceable
        currentUtcOffset := (t.ports i).annCurrentUtcOffset
        timeSource := (t.ports i).anntimeSource
        masterStepsRemoved := UInt16.ofNat ((t.ports i).messagePriority.stepsRemoved.get + 1) }
    else t
  else t

/-- The second part of `updtRolesTree`: the best vector. -/
def updateGmPriority (t : Gptpm n) : Gptpm n :=
  (List.finRange n).foldl considerPort { t with gmPriority := .systemPriority, masterStepsRemoved := 0 }

/-- `masterPriority` of port `i`. -/
def masterPriorityOf (t : Gptpm n) (i : Fin n) : PriorityVector :=
  { t.gmPriorityVector with
    sourcePortIdentity :=
      { clockIdentity := t.systemPriority.sourcePortIdentity.clockIdentity
        portNumber := setPortNumber (i + 1) }
    portNumber := setPortNumber (i + 1) }

/-- The role of one port. -/
def assignRole (t : Gptpm n) (i : Fin n) : Port :=
  let pp := { t.ports i with masterPriority := masterPriorityOf t i }
  match pp.infoIs with
  | .disabled => { pp with selectedRole := .disabled }
  | .aged => { pp with selectedRole := .master, updtInfo := true }
  | .mine =>
    { pp with
      selectedRole := .master
      updtInfo :=
        if pp.portStepsRemoved ≠ t.masterStepsRemoved ∨
          bmcaComparison pp.portPriority pp.masterPriority ≠ .isPresentMaster then true
        else pp.updtInfo }
  | .received =>
    if t.gmPriority = .gmPathPriority i then
      { pp with selectedRole := .slave, updtInfo := false }
    else if bmcaComparison pp.portPriority pp.masterPriority = .replacePresentMaster then
      { pp with selectedRole := .master, updtInfo := true }
    else { pp with selectedRole := .passive, updtInfo := false }

/-- The third part of `updtRolesTree`: the roles. -/
def assignRoles (t : Gptpm n) : Gptpm n := { t with ports := assignRole t }

/-- The last part of `updtRolesTree`. -/
def concludeSelection (t : Gptpm n) : Gptpm n :=
  let isSystem := t.gmPriority = .systemPriority
  { t with
    gmPresent := t.gmPriorityVector.rootSystemIdentity.priority1 ≠ 255
    pathTraceLength := if isSystem then 1 else t.pathTraceLength
    pathTrace := fun k =>
      if isSystem ∧ k = ⟨0, maxPathTrace_pos⟩ then t.systemPriority.rootSystemIdentity.clockIdentity
      else t.pathTrace k
    grandMaster := isSystem
    newMaster :=
      if OctetOrder.memcmp t.gmPriorityVector.octets t.lastGmPriority.octets ≠ .eq then true
      else t.newMaster }

/-- `updtRolesTree`. -/
def updtRolesTree (t : Gptpm n) : Gptpm n :=
  concludeSelection (assignRoles (updateGmPriority (computePaths t)))

/-- `setSelectedTree`. -/
def setSelectedTree (t : Gptpm n) : Gptpm n :=
  { t with ports := fun i => { t.ports i with selected := true } }

/-- Some port asks for a selection. -/
def Reselecting (t : Gptpm n) : Prop := ∃ i, (t.ports i).reselect

instance (t : Gptpm n) : Decidable (Reselecting t) := inferInstanceAs (Decidable (∃ _, _))

/-- One turn of the loop of `PortRoleSelection_StateMachine`. -/
def portRoleSelectionTurn (t : Gptpm n) : Gptpm n :=
  match t.portRoleSelectionState with
  | .initBridge => { updtRoleDisabledTree t with portRoleSelectionState := .roleSelection }
  | .roleSelection =>
    if Reselecting t then setSelectedTree (updtRolesTree (clearReselectTree t)) else t

/-- `PortRoleSelection_StateMachine`: the state changes in the first turn only. -/
def portRoleSelection (t : Gptpm n) : Gptpm n :=
  let t' := portRoleSelectionTurn t
  if t.portRoleSelectionState = t'.portRoleSelectionState then t' else portRoleSelectionTurn t'

/-! ### Which vector is found -/

variable {t u : Gptpm n} {i : Fin n} {o : Option (Fin n)} {pp : Port}

/-- What `updtRolesTree` computes as the path vector of port `i`. -/
def Gptpm.gmPath (t : Gptpm n) (i : Fin n) : PriorityVector :=
  (computeGmPathPriority t.gmPresent (t.ports i)).gmPathPriority

/-- The port's own vector with one step more, or ones after a timeout. -/
theorem computeGmPathPriority_gmPathPriority {gmPresent : Bool} :
    (computeGmPathPriority gmPresent pp).gmPathPriority =
      if !pp.announceTimeout && (!gmPresent || !pp.syncTimeout) then
        { pp.portPriority with stepsRemoved := .put (pp.portPriority.stepsRemoved.get + 1) }
      else .memset 0xFF := by
  rw [computeGmPathPriority]
  split <;> rfl

/-- The path of port `i` leads to another system. -/
def Foreign (t : Gptpm n) (i : Fin n) : Prop :=
  (t.gmPath i).rootSystemIdentity.clockIdentity ≠ t.systemPriority.rootSystemIdentity.clockIdentity

instance (t : Gptpm n) : DecidablePred (Foreign t) := fun _ => inferInstanceAs (Decidable (_ ≠ _))

/-- The port whose path is the best, if it beats the system itself. -/
def winner (t : Gptpm n) : Option (Fin n) :=
  best t.systemPriority.value (fun i => (t.gmPath i).value) (Foreign t) (List.finRange n)

/-- The pointer to what was found. -/
def pointerTo : Option (Fin n) → GmPriority n
  | none => .systemPriority
  | some i => .gmPathPriority i

/-- The best one so far, in an instance whose path vectors are computed. -/
structure BestSoFar (t : Gptpm n) (o : Option (Fin n)) (u : Gptpm n) : Prop where
  ports : u.ports = fun i => computeGmPathPriority t.gmPresent (t.ports i)
  systemPriority : u.systemPriority = t.systemPriority
  gmPriority : u.gmPriority = pointerTo o

namespace BestSoFar

theorem gmPriorityVector_value (h : BestSoFar t o u) :
    u.gmPriorityVector.value = keyOf t.systemPriority.value (fun i => (t.gmPath i).value) o := by
  rw [Gptpm.gmPriorityVector, h.gmPriority]
  cases o with
  | none => exact congrArg _ h.systemPriority
  | some i =>
    show (u.ports i).gmPathPriority.value = _
    rw [h.ports]
    rfl

/-- The comparisons of `updtRolesTree` decide as the search does. -/
theorem better_eq (h : BestSoFar t o u) :
    better t.systemPriority.value (fun i => (t.gmPath i).value) (Foreign t) o i =
      if compareClockIdentity u.systemPriority.rootSystemIdentity.clockIdentity
          (u.ports i).gmPathPriority.rootSystemIdentity.clockIdentity ≠ .eq then
        if bmcaComparison u.gmPriorityVector (u.ports i).gmPathPriority = .replacePresentMaster then
          some i
        else o
      else o := by
  have hpath : (u.ports i).gmPathPriority = t.gmPath i := by
    rw [h.ports]
    rfl
  rw [better, ← h.gmPriorityVector_value]
  simp only [hpath, h.systemPriority, bmcaComparison_eq_replace_iff, ne_eq,
    compareClockIdentity_eq_iff]
  by_cases hforeign : Foreign t i
  · rw [if_pos (Ne.symm hforeign)]
    by_cases hlt : (t.gmPath i).value < u.gmPriorityVector.value
    · rw [if_pos hlt, if_pos ⟨hforeign, hlt⟩]
    · rw [if_neg hlt, if_neg fun hboth => hlt hboth.2]
  · rw [if_neg (not_not.mpr (not_not.mp hforeign).symm), if_neg fun hboth => hforeign hboth.1]

theorem considerPort (h : BestSoFar t o u) :
    BestSoFar t (better t.systemPriority.value (fun i => (t.gmPath i).value) (Foreign t) o i)
      (considerPort u i) := by
  rw [h.better_eq, Gptp.considerPort]
  split_ifs
  · exact ⟨h.ports, h.systemPriority, rfl⟩
  · exact h
  · exact h

theorem foldl (h : BestSoFar t o u) {l : List (Fin n)} :
    BestSoFar t
      (l.foldl (better t.systemPriority.value (fun i => (t.gmPath i).value) (Foreign t)) o)
      (l.foldl Gptp.considerPort u) := by
  induction l generalizing o u with
  | nil => exact h
  | cons i l ih => exact ih h.considerPort

end BestSoFar

/-- The loop over the ports finds the winner. -/
theorem updateGmPriority_best : BestSoFar t (winner t) (updateGmPriority (computePaths t)) :=
  (⟨rfl, rfl, rfl⟩ : BestSoFar t none
    { computePaths t with gmPriority := .systemPriority, masterStepsRemoved := 0 }).foldl

theorem updtRolesTree_gmPriority : (updtRolesTree t).gmPriority = pointerTo (winner t) :=
  updateGmPriority_best.gmPriority

/-- The system is the grandmaster exactly if nothing better was found. -/
theorem updtRolesTree_grandMaster : (updtRolesTree t).grandMaster = true ↔ winner t = none := by
  have hgm : (updateGmPriority (computePaths t)).gmPriority = pointerTo (winner t) :=
    updateGmPriority_best.gmPriority
  show decide ((updateGmPriority (computePaths t)).gmPriority = .systemPriority) = true ↔ _
  rw [decide_eq_true_iff, hgm]
  cases winner t <;> simp [pointerTo]

/-! ### Which port is the slave -/

theorem assignRole_infoIs : (assignRole t i).infoIs = (t.ports i).infoIs := by
  rw [assignRole]
  split
  case h_4 => split_ifs <;> rfl
  all_goals rfl

theorem assignRole_slave_iff :
    (assignRole t i).selectedRole = .slave ↔
      (t.ports i).infoIs = .received ∧ t.gmPriority = .gmPathPriority i := by
  rw [assignRole]
  split
  case h_4 h =>
    rw [show (t.ports i).infoIs = .received from h]
    split_ifs with hgm <;> simp [hgm]
  all_goals
    rename_i h
    rw [show (t.ports i).infoIs = _ from h]
    simp

theorem computeGmPathPriority_infoIs {gmPresent : Bool} :
    (computeGmPathPriority gmPresent pp).infoIs = pp.infoIs := by
  rw [computeGmPathPriority]
  split <;> rfl

theorem updtRolesTree_ports :
    (updtRolesTree t).ports i = assignRole (updateGmPriority (computePaths t)) i := rfl

theorem updateGmPriority_infoIs :
    ((updateGmPriority (computePaths t)).ports i).infoIs = (t.ports i).infoIs := by
  rw [updateGmPriority_best.ports, computeGmPathPriority_infoIs]

theorem updtRolesTree_infoIs : ((updtRolesTree t).ports i).infoIs = (t.ports i).infoIs := by
  rw [updtRolesTree_ports, assignRole_infoIs, updateGmPriority_infoIs]

theorem updtRolesTree_slave_iff :
    ((updtRolesTree t).ports i).selectedRole = .slave ↔
      (t.ports i).infoIs = .received ∧ winner t = some i := by
  rw [updtRolesTree_ports, assignRole_slave_iff, updateGmPriority_infoIs,
    updateGmPriority_best.gmPriority]
  cases winner t <;> simp [pointerTo]

end Gptp
