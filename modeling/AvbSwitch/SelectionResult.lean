/-
What `updtRolesTree` leaves behind.

`gmPriority` points to a vector that the function may itself rewrite: to a path vector, or to the
copy of the last grandmaster's vector.  The copy is made before anything else is written, so that
the comparison at the end is one of the contents before and after.

`updtRolesTree_selected` says of every state, and any number of ports, that the path vectors are
those of the ports one step further on, that `gmPriority` points to the lexicographically least of
the vectors on offer, and that `newMaster` reports a change of contents.
-/
import AvbSwitch.SelectedMaster

open FirstMinimum

namespace Gptp

variable {n : ℕ} {t : Gptpm n} {i : Fin n}

/-- The vector at a pointer. -/
def Gptpm.vectorAt (t : Gptpm n) : GmPriority n → PriorityVector
  | .systemPriority => t.systemPriority
  | .lastGmPriority => t.lastGmPriority
  | .gmPathPriority i => (t.ports i).gmPathPriority

/-- The vectors that a selection chooses from: the system's own, and the path vectors with the
clock of another system for their root. -/
def Gptpm.Offers (t : Gptpm n) : GmPriority n → Prop
  | .systemPriority => True
  | .lastGmPriority => False
  | .gmPathPriority i => (t.ports i).gmPathPriority.rootSystemIdentity.clockIdentity ≠
      t.systemPriority.rootSystemIdentity.clockIdentity

/-- What a selection makes of the state `t`. -/
structure Selected (t t' : Gptpm n) : Prop where
  systemPriority : t'.systemPriority = t.systemPriority
  portPriority : ∀ i, (t'.ports i).portPriority = (t.ports i).portPriority
  path : ∀ i, ¬ TimedOut t (t.ports i) → ∃ s : Short,
    s.get = ((t.ports i).portPriority.stepsRemoved.get + 1) % 2 ^ 16 ∧
      (t'.ports i).gmPathPriority = { (t.ports i).portPriority with stepsRemoved := s }
  path_timedOut : ∀ i, TimedOut t (t.ports i) → (t'.ports i).gmPathPriority = .memset 0xFF
  offered : t'.Offers t'.gmPriority
  least : ∀ x, t'.Offers x → t'.gmPriorityVector.octets ≤ (t'.vectorAt x).octets
  newMaster : t'.newMaster =
    if t'.gmPriorityVector ≠ t.gmPriorityVector then true else t.newMaster

/-! ### The selection -/

theorem computeGmPathPriority_portPriority {gmPresent : Bool} {pp : Port} :
    (computeGmPathPriority gmPresent pp).portPriority = pp.portPriority := by
  rw [computeGmPathPriority]
  split <;> rfl

theorem assignRole_portPriority : (assignRole t i).portPriority = (t.ports i).portPriority := by
  rw [assignRole]
  split
  case h_4 => split_ifs <;> rfl
  all_goals rfl

theorem updtRolesTree_portPriority :
    ((updtRolesTree t).ports i).portPriority = (t.ports i).portPriority := by
  rw [updtRolesTree_ports, assignRole_portPriority, updateGmPriority_best.ports,
    computeGmPathPriority_portPriority]

theorem updtRolesTree_gmPathPriority :
    ((updtRolesTree t).ports i).gmPathPriority = t.gmPath i := by
  rw [updtRolesTree_ports, assignRole_gmPathPriority, updateGmPriority_best.ports]
  rfl

/-- The path vectors on offer are those that the search looks at. -/
theorem offers_iff_foreign : (updtRolesTree t).Offers (.gmPathPriority i) ↔ Foreign t i := by
  rw [Gptpm.Offers, updtRolesTree_gmPathPriority, updtRolesTree_systemPriority, Foreign]

/-- What the vector of the winner is compared with. -/
theorem updtRolesTree_value :
    (updtRolesTree t).gmPriorityVector.value =
      keyOf t.systemPriority.value (fun i => (t.gmPath i).value) (winner t) := by
  rw [updtRolesTree_gmPriorityVector]
  cases winner t with
  | none => rfl
  | some i => rfl

theorem updtRolesTree_least (x : GmPriority n) (hx : (updtRolesTree t).Offers x) :
    (updtRolesTree t).gmPriorityVector.value ≤ ((updtRolesTree t).vectorAt x).value := by
  obtain ⟨hstart, hle⟩ := keyOf_best_le t.systemPriority.value (fun i => (t.gmPath i).value)
    (Foreign t) (List.finRange n)
  rw [updtRolesTree_value]
  cases x with
  | systemPriority =>
    show _ ≤ (updtRolesTree t).systemPriority.value
    rw [updtRolesTree_systemPriority]
    exact hstart
  | lastGmPriority => exact hx.elim
  | gmPathPriority i =>
    show _ ≤ ((updtRolesTree t).ports i).gmPathPriority.value
    rw [updtRolesTree_gmPathPriority]
    exact hle i (List.mem_finRange i) (offers_iff_foreign.mp hx)

theorem updtRolesTree_offered : (updtRolesTree t).Offers (updtRolesTree t).gmPriority := by
  rw [updtRolesTree_gmPriority]
  cases hw : winner t with
  | none => exact trivial
  | some i =>
    have hforeign := (of_best_eq_some (List.pairwise_lt_finRange n) hw).2.1
    exact offers_iff_foreign.mpr hforeign

/-- The copy of the old contents is made before the path vectors are written. -/
theorem updateGmPriority_lastGmPriority :
    (updateGmPriority (computePaths t)).lastGmPriority = t.gmPriorityVector := by
  have hkept : ∀ (u : Gptpm n) i, (considerPort u i).lastGmPriority = u.lastGmPriority := by
    intro u i
    rw [considerPort]
    split_ifs <;> rfl
  rw [updateGmPriority_kept hkept]
  rfl

theorem updateGmPriority_newMaster :
    (updateGmPriority (computePaths t)).newMaster = t.newMaster := by
  have hkept : ∀ (u : Gptpm n) i, (considerPort u i).newMaster = u.newMaster := by
    intro u i
    rw [considerPort]
    split_ifs <;> rfl
  rw [updateGmPriority_kept hkept]
  rfl

theorem updtRolesTree_newMaster :
    (updtRolesTree t).newMaster =
      if (updtRolesTree t).gmPriorityVector ≠ t.gmPriorityVector then true else t.newMaster := by
  show (if OctetOrder.memcmp (updtRolesTree t).gmPriorityVector.octets
      (updateGmPriority (computePaths t)).lastGmPriority.octets ≠ .eq then true
    else (updateGmPriority (computePaths t)).newMaster) = _
  rw [updateGmPriority_lastGmPriority, updateGmPriority_newMaster]
  exact if_congr (not_congr PriorityVector.memcmp_eq_iff) rfl rfl

/-- **A selection takes the best vector and reports a change of its contents.** -/
theorem updtRolesTree_selected (t : Gptpm n) : Selected t (updtRolesTree t) where
  systemPriority := updtRolesTree_systemPriority
  portPriority _ := updtRolesTree_portPriority
  path i htimed := by
    refine ⟨.put ((t.ports i).portPriority.stepsRemoved.get + 1), Short.get_put_mod, ?_⟩
    rw [updtRolesTree_gmPathPriority, gmPath_eq_of_not_timedOut htimed]
    rfl
  path_timedOut i htimed := by
    rw [updtRolesTree_gmPathPriority, gmPath_eq_of_timedOut htimed]
  offered := updtRolesTree_offered
  least x hx := PriorityVector.octets_le_iff.mpr (updtRolesTree_least x hx)
  newMaster := updtRolesTree_newMaster

end Gptp
