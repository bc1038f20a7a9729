/-
Which port, if any, best-master selection follows.

After `updtRolesTree` the system should be the grandmaster itself, without a slave port, or
`gmPriority` should point to the path of the one slave port (`Consistent`).  The candidates are
taken from the vectors of all ports, though, and one whose information is not received gets no
slave port; `consistent_along_iff` says when this happens in a run from `gptp_sw_init`:
`NoStaleWinner` must hold wherever a selection is made.

A port without information is no candidate, its vector of ones being worse than the system's
(`not_candidate_of_vacant`), unless its machine has not run yet; then the vector is still the
zeros of the static memory.
-/
import AvbSwitch.GptpRuns

open FirstMinimum

namespace Gptp

variable {n : ℕ} {bigEndian : Bool} {t : Gptpm n} {i j : Fin n} {pp : Port}
  {mac : Vector UInt8 6} {systemConfig : SystemConfig} {portConfig : Fin n → PortConfig}

/-! ### Consistency -/

/-- The system is the grandmaster and has no slave port, or it follows one port, on which it
has received the vector it follows. -/
def Consistent (t : Gptpm n) : Prop :=
  (t.gmPriority = .systemPriority ∧ t.grandMaster = true ∧
      ∀ p, (t.ports p).selectedRole ≠ .slave) ∨
    ∃ i, t.gmPriority = .gmPathPriority i ∧ (t.ports i).infoIs = .received ∧
      t.grandMaster = false ∧ ∀ p, (t.ports p).selectedRole = .slave ↔ p = i

/-- A role selection is made. -/
def Selects (t : Gptpm n) : Input n → Prop
  | .portRoleSelection => t.portRoleSelectionState = .roleSelection ∧ Reselecting t
  | _ => False

/-- What the port announces or receives is out of date. -/
def TimedOut (t : Gptpm n) (pp : Port) : Prop :=
  pp.announceTimeout ∨ t.gmPresent ∧ pp.syncTimeout

/-- A vector as seen one step further on. -/
def oneStepFurther (v : PriorityVector) : PriorityVector :=
  { v with stepsRemoved := .put (v.stepsRemoved.get + 1) }

/-- The vector of the port is not timed out, has another system for its root, and is better
than that of the system itself even one step further. -/
def Candidate (t : Gptpm n) (i : Fin n) : Prop :=
  ¬ TimedOut t (t.ports i) ∧
    (t.ports i).portPriority.rootSystemIdentity.clockIdentity ≠
      t.systemPriority.rootSystemIdentity.clockIdentity ∧
    (oneStepFurther (t.ports i).portPriority).value < t.systemPriority.value

/-- Of two candidates the smaller one is taken, and the first of equal ones. -/
def Precedes (t : Gptpm n) (j i : Fin n) : Prop :=
  (oneStepFurther (t.ports j).portPriority).value < (oneStepFurther (t.ports i).portPriority).value ∨
    (oneStepFurther (t.ports j).portPriority).value =
      (oneStepFurther (t.ports i).portPriority).value ∧ j < i

/-- The port holds a vector that it does not receive from its neighbour: an aged one, the one
it announces itself, or that of the static memory. -/
def Stale (pp : Port) : Prop :=
  pp.infoIs = .aged ∨ pp.infoIs = .mine ∨
    pp.infoIs = .disabled ∧ pp.portAnnounceInformationState = .begin

/-- Every candidate with a stale vector comes after one with a received vector. -/
def NoStaleWinner (t : Gptpm n) : Prop :=
  ∀ i, Candidate t i → Stale (t.ports i) →
    ∃ j, Candidate t j ∧ (t.ports j).infoIs = .received ∧ Precedes t j i

/-! ### The winner -/

theorem gmPath_eq_of_not_timedOut (h : ¬ TimedOut t (t.ports i)) :
    t.gmPath i = oneStepFurther (t.ports i).portPriority := by
  rw [Gptpm.gmPath, computeGmPathPriority_gmPathPriority, if_pos]
  · rfl
  · rw [TimedOut] at h
    cases h1 : (t.ports i).announceTimeout <;> cases h2 : t.gmPresent <;>
      cases h3 : (t.ports i).syncTimeout <;> simp_all

theorem gmPath_eq_of_timedOut (h : TimedOut t (t.ports i)) : t.gmPath i = .memset 0xFF := by
  rw [Gptpm.gmPath, computeGmPathPriority_gmPathPriority, if_neg]
  rcases h with h | ⟨h1, h2⟩
  · simp [h]
  · simp [h1, h2]

/-- A vector of ones is worse than the system, wherever it stands. -/
theorem Sound.lt_ones (ht : Sound t) {v : PriorityVector}
    (hp : v.rootSystemIdentity.priority1 = 255) (hc : v.rootSystemIdentity.clockClass = 255) :
    t.systemPriority.value < v.value := by
  have hclass : t.systemPriority.rootSystemIdentity.clockClass < 255 := ht.clockClass ▸ by decide
  exact value_lt_of_root_ones hclass hp hc

theorem not_candidate_of_vacant (ht : Sound t) (h : (t.ports i).portPriority = .memset 0xFF) :
    ¬ Candidate t i := by
  rintro ⟨-, -, hlt⟩
  rw [h] at hlt
  exact lt_asymm hlt (ht.lt_ones rfl rfl)

/-- The candidates are the ports that the search for the best vector could take. -/
theorem candidate_iff (ht : Sound t) :
    Candidate t i ↔ Foreign t i ∧ (t.gmPath i).value < t.systemPriority.value := by
  constructor
  · rintro ⟨htimed, hroot, hlt⟩
    rw [Foreign, gmPath_eq_of_not_timedOut htimed]
    exact ⟨hroot, hlt⟩
  · rintro ⟨hroot, hlt⟩
    by_cases htimed : TimedOut t (t.ports i)
    · rw [gmPath_eq_of_timedOut htimed] at hlt
      exact absurd hlt (lt_asymm (ht.lt_ones rfl rfl))
    · rw [Foreign, gmPath_eq_of_not_timedOut htimed] at hroot
      rw [gmPath_eq_of_not_timedOut htimed] at hlt
      exact ⟨htimed, hroot, hlt⟩

/-- The winner is a candidate that precedes all others. -/
theorem winner_candidate (ht : Sound t) (h : winner t = some i) :
    Candidate t i ∧ ∀ j, Candidate t j → j ≠ i → Precedes t i j := by
  obtain ⟨-, hforeign, hlt, hmin⟩ := (best_eq_some_iff (List.pairwise_lt_finRange n)).mp h
  have hi : Candidate t i := (candidate_iff ht).mpr ⟨hforeign, hlt⟩
  refine ⟨hi, fun j hj hne => ?_⟩
  have hle := hmin j (List.mem_finRange j) ((candidate_iff ht).mp hj).1
  rw [gmPath_eq_of_not_timedOut hi.1, gmPath_eq_of_not_timedOut hj.1] at hle
  exact hle.imp_right fun h => ⟨h.1, lt_of_le_of_ne h.2 hne.symm⟩

theorem winner_eq_none_iff (ht : Sound t) : winner t = none ↔ ∀ i, ¬ Candidate t i := by
  rw [winner, best_eq_none_iff (List.pairwise_lt_finRange n)]
  simp only [List.mem_finRange, true_implies, candidate_iff ht, not_and, not_lt]

theorem Precedes.asymm (h : Precedes t i j) : ¬ Precedes t j i := by
  rintro (h' | ⟨h', hji⟩) <;> rcases h with h | ⟨h, hij⟩
  · exact lt_asymm h h'
  · exact h'.ne h.symm
  · exact h.ne h'.symm
  · exact lt_asymm hij hji

/-! ### What the selection leaves -/

/-- The selection is consistent exactly if the winner's information is received. -/
theorem consistent_iff_winner :
    Consistent (updtRolesTree t) ↔ ∀ i, winner t = some i → (t.ports i).infoIs = .received := by
  constructor
  · rintro (⟨hgm, -⟩ | ⟨j, hgm, hinfo, -⟩) i hi
    · rw [updtRolesTree_gmPriority, hi] at hgm
      exact absurd hgm nofun
    · rw [updtRolesTree_gmPriority, hi] at hgm
      obtain rfl : i = j := GmPriority.gmPathPriority.inj hgm
      exact updtRolesTree_infoIs.symm.trans hinfo
  · intro h
    match hw : winner t with
    | none =>
      refine Or.inl ⟨?_, updtRolesTree_grandMaster.mpr hw, fun p hp => ?_⟩
      · rw [updtRolesTree_gmPriority, hw]
        rfl
      · exact absurd (hw.symm.trans (updtRolesTree_slave_iff.mp hp).2) nofun
    | some i =>
      have hinfo := h i hw
      refine Or.inr ⟨i, ?_, updtRolesTree_infoIs.trans hinfo, ?_, fun p => ?_⟩
      · rw [updtRolesTree_gmPriority, hw]
        rfl
      · rw [← Bool.not_eq_true, updtRolesTree_grandMaster, hw]
        nofun
      · rw [updtRolesTree_slave_iff, hw, Option.some_inj]
        constructor
        · exact fun hp => hp.2.symm
        · rintro rfl
          exact ⟨hinfo, rfl⟩

/-- In a sound state the only stale winners are those of `Stale`. -/
theorem noStaleWinner_iff_winner (ht : Sound t) :
    NoStaleWinner t ↔ ∀ i, winner t = some i → (t.ports i).infoIs = .received := by
  constructor
  · intro h i hi
    obtain ⟨hcand, hfirst⟩ := winner_candidate ht hi
    by_contra hinfo
    have hstale : Stale (t.ports i) := by
      cases hcase : (t.ports i).infoIs with
      | received => exact absurd hcase hinfo
      | aged => exact Or.inl hcase
      | mine => exact Or.inr (Or.inl hcase)
      | disabled =>
        refine Or.inr (Or.inr ⟨hcase, ?_⟩)
        by_contra hstate
        exact not_candidate_of_vacant ht ((ht.ports i).vacant hcase hstate) hcand
    obtain ⟨j, hj, hreceived, hprec⟩ := h i hcand hstale
    have hne : j ≠ i := fun hji => hinfo (hji ▸ hreceived)
    exact hprec.asymm (hfirst j hj hne)
  · intro h i hcand hstale
    match hw : winner t with
    | none => exact absurd hcand ((winner_eq_none_iff ht).mp hw i)
    | some j =>
      have hinfo := h j hw
      obtain ⟨hj, hfirst⟩ := winner_candidate ht hw
      refine ⟨j, hj, hinfo, hfirst i hcand ?_⟩
      rintro rfl
      rcases hstale with hs | hs | ⟨hs, -⟩ <;> exact absurd (hs.symm.trans hinfo) nofun

theorem noStaleWinner_clearReselectTree :
    NoStaleWinner (clearReselectTree t) ↔ NoStaleWinner t := Iff.rfl

theorem Sound.clearReselectTree (ht : Sound t) : Sound (clearReselectTree t) where
  clockClass := ht.clockClass
  ports i := (ht.ports i).of_sameInfo ⟨rfl, rfl, rfl, rfl, rfl⟩

/-- **Best-master selection along a run.**  From `gptp_sw_init` on, every role selection is
consistent exactly if no stale vector wins in any of them. -/
theorem consistent_along_iff (bigEndian : Bool) (mac : Vector UInt8 6)
    (systemConfig : SystemConfig) (portConfig : Fin n → PortConfig) (inputs : List (Input n)) :
    Runs.AtEach (step bigEndian)
        (fun t input => Selects t input → Consistent (updtRolesTree (clearReselectTree t)))
        (gptpSwInit mac (staticMemory systemConfig portConfig)) inputs ↔
      Runs.AtEach (step bigEndian) (fun t input => Selects t input → NoStaleWinner t)
        (gptpSwInit mac (staticMemory systemConfig portConfig)) inputs := by
  refine Runs.atEach_congr (fun hs h => Sound.step hs h) (fun input _ t ht => ?_) gptpSwInit_sound
  refine imp_congr_right fun _ => ?_
  rw [consistent_iff_winner, ← noStaleWinner_iff_winner ht.clearReselectTree,
    noStaleWinner_clearReselectTree]

/-! ### A stale winner -/

/-- An Announce message of a grandmaster with priority 100. -/
def superiorAnnounce : Octets.Mem := fun k =>
  if k = 47 then 100 else if k = 20 ∨ k = 53 then 1 else 0

/-- Port 0 receives the message and is the slave port; port 1 announces what was received, so
that its own vector has the foreign root.  Then port 0 is disabled. -/
def slaveLost : List (Input 2) :=
  [.portAnnounceInformation 0, .portAnnounceInformation 1, .portRoleSelection,
    .portAnnounceInformation 0, .portAnnounceInformation 1,
    .processRxAnnounce 0 superiorAnnounce, .portAnnounceInformation 0, .portRoleSelection,
    .portAnnounceInformation 0, .portAnnounceInformation 1,
    .setPortEnabled 0 false, .portAnnounceInformation 0]

/-- **A system follows itself.**  In the next selection the vector that port 1 announces wins,
and there is neither a slave port nor a grandmaster. -/
theorem follows_its_own_announce :
    ¬ Runs.AtEach (step true)
        (fun t input => Selects t input → Consistent (updtRolesTree (clearReselectTree t)))
        (gptpSwInit #v[0x00, 0x0A, 0x35, 0x00, 0x22, 0xFF]
          (staticMemory ⟨248, 248⟩ fun _ => ⟨3, 3⟩))
        (slaveLost ++ [.portRoleSelection]) := by
  intro h
  have hrun : (Runs.run (step true)
      (gptpSwInit #v[0x00, 0x0A, 0x35, 0x00, 0x22, 0xFF]
        (staticMemory ⟨248, 248⟩ fun _ => ⟨3, 3⟩)) slaveLost).map
      (fun t => (t.portRoleSelectionState, decide (Reselecting t), winner (clearReselectTree t),
        ((clearReselectTree t).ports 1).infoIs)) =
      some (.roleSelection, true, some 1, .mine) := by
    decide +kernel
  obtain ⟨t, ht, heq⟩ := Option.map_eq_some_iff.mp hrun
  simp only [Prod.mk.injEq, decide_eq_true_iff] at heq
  obtain ⟨hstate, hreselect, hwinner, hmine⟩ := heq
  have hconsistent := h.last ht ⟨hstate, hreselect⟩
  exact absurd (hmine.symm.trans (consistent_iff_winner.mp hconsistent 1 hwinner)) nofun

end Gptp
