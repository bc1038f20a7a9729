/-
The path trace of an instance.

It is either the one that the system sets up for itself, with its own identity, or it was
copied from a message that a slave port has received.  `get_rx_announce_path_trace` copies
at most as many entries as the array has, but returns the length that the message gives;
what is compared and copied afterwards is bounded by that length.

* `step_trace` — what a step does to the path trace;
* `pathTrace_along_iff` — all along a run the path trace and the frame made from it stay in
  their arrays exactly if no message with too long a path trace comes to be compared.
-/
import AvbSwitch.AnnounceFrame
import AvbSwitch.SelectedMaster

open Octets

namespace Gptp

variable {n : ℕ} {bigEndian : Bool} {t t' : Gptpm n} {p : Fin n} {m : Mem}
  {input : Input n} {mac : Vector UInt8 6} {systemConfig : SystemConfig}
  {portConfig : Fin n → PortConfig} {i k : ℕ}

/-! ### What a step does to the path trace -/

/-- The path trace is left alone. -/
def SameTrace (t t' : Gptpm n) : Prop :=
  t'.pathTraceLength = t.pathTraceLength ∧ t'.pathTrace = t.pathTrace

/-- The path trace is the one that the system sets up for itself. -/
def LocalTrace (t : Gptpm n) : Prop :=
  t.pathTraceLength = 1 ∧
    t.pathTraceEntry 0 = some t.systemPriority.rootSystemIdentity.clockIdentity

/-- The path trace is that of a message, which did not contain this clock. -/
def CopiedTrace (bigEndian : Bool) (t : Gptpm n) (m : Mem) : Prop :=
  t.pathTraceLength = rxPathTraceLength bigEndian m ∧ t.pathTraceLength ≤ maxPathTrace ∧
    ∀ i < t.pathTraceLength, t.pathTraceEntry i = some (rxPathTrace m i) ∧
      rxPathTrace m i ≠ t.systemPriority.sourcePortIdentity.clockIdentity

theorem SameTrace.refl : SameTrace t t := ⟨rfl, rfl⟩

theorem SameTrace.entry (h : SameTrace t t') : t'.pathTraceEntry i = t.pathTraceEntry i := by
  rw [Gptpm.pathTraceEntry, Gptpm.pathTraceEntry, h.2]

theorem LocalTrace.of_same (hl : LocalTrace t) (h : SameTrace t t')
    (hsystem : t'.systemPriority = t.systemPriority) : LocalTrace t' :=
  ⟨h.1.trans hl.1, h.entry.trans (hsystem ▸ hl.2)⟩

theorem CopiedTrace.of_same (hc : CopiedTrace bigEndian t m) (h : SameTrace t t')
    (hsystem : t'.systemPriority = t.systemPriority) : CopiedTrace bigEndian t' m :=
  ⟨h.1.trans hc.1, h.1 ▸ hc.2.1, fun i hi => by
    rw [h.entry, hsystem]
    exact hc.2.2 i (h.1 ▸ hi)⟩

/-- A message either leaves the path trace alone, or it comes in on a slave port and its own
is copied. -/
theorem qualifyAnnounce_trace {r : Gptpm n × Bool} (h : qualifyAnnounce bigEndian t p m = some r) :
    r.1 = t ∨ (t.ports p).selectedRole = .slave ∧ CopiedTrace bigEndian r.1 m := by
  simp only [qualifyAnnounce] at h
  split_ifs at h with hsource hsteps hown hover hslave
  · exact Or.inl (Option.some_inj.mp h ▸ rfl)
  · exact Or.inl (Option.some_inj.mp h ▸ rfl)
  · exact Or.inl (Option.some_inj.mp h ▸ rfl)
  · obtain rfl := Option.some_inj.mp h
    have hle : rxPathTraceLength bigEndian m ≤ maxPathTrace := Nat.not_lt.mp hover
    refine Or.inr ⟨hslave, rfl, hle, fun i hi => ?_⟩
    have hi50 : i < maxPathTrace := lt_of_lt_of_le hi hle
    refine ⟨?_, fun heq => hown ⟨i, by rw [min_eq_left hle]; exact hi, heq⟩⟩
    rw [Gptpm.pathTraceEntry, dif_pos hi50]
    exact congrArg some (if_pos hi)
  · exact Or.inl (Option.some_inj.mp h ▸ rfl)

theorem considerPort_sameTrace {i : Fin n} : SameTrace t (considerPort t i) := by
  rw [considerPort]
  split_ifs <;> exact ⟨rfl, rfl⟩

theorem updateGmPriority_sameTrace : SameTrace t (updateGmPriority (computePaths t)) :=
  ⟨updateGmPriority_kept (f := fun u => u.pathTraceLength) (fun _ _ => considerPort_sameTrace.1) _,
    updateGmPriority_kept (f := fun u => u.pathTrace) (fun _ _ => considerPort_sameTrace.2) _⟩

/-- A selection sets the path trace up if the system selects itself. -/
theorem updtRolesTree_trace : SameTrace t (updtRolesTree t) ∨ LocalTrace (updtRolesTree t) := by
  have hsame : SameTrace t (assignRoles (updateGmPriority (computePaths t))) :=
    updateGmPriority_sameTrace
  rw [updtRolesTree]
  -- only the last part of the selection writes to the path trace
  generalize assignRoles (updateGmPriority (computePaths t)) = u at hsame
  by_cases hself : u.gmPriority = .systemPriority
  · refine Or.inr ⟨if_pos hself, ?_⟩
    rw [Gptpm.pathTraceEntry, dif_pos maxPathTrace_pos]
    exact congrArg some (if_pos ⟨hself, rfl⟩)
  · refine Or.inl ⟨(if_neg hself).trans hsame.1, ?_⟩
    rw [← hsame.2]
    exact funext fun k => if_neg fun h => hself h.1

theorem updtRoleDisabledTree_trace : LocalTrace (updtRoleDisabledTree t) := by
  refine ⟨rfl, ?_⟩
  rw [Gptpm.pathTraceEntry, dif_pos maxPathTrace_pos]
  simp only [updtRoleDisabledTree, if_true]

theorem portRoleSelectionTurn_trace :
    SameTrace t (portRoleSelectionTurn t) ∨ LocalTrace (portRoleSelectionTurn t) := by
  rw [portRoleSelectionTurn]
  split
  · exact Or.inr updtRoleDisabledTree_trace
  · split
    · exact updtRolesTree_trace (t := clearReselectTree t)
    · exact Or.inl SameTrace.refl

theorem portRoleSelection_trace :
    SameTrace t (portRoleSelection t) ∨ LocalTrace (portRoleSelection t) := by
  rw [portRoleSelection]
  split
  · exact portRoleSelectionTurn_trace
  · rcases @portRoleSelectionTurn_trace n (portRoleSelectionTurn t) with hsame | hlocal
    · rcases @portRoleSelectionTurn_trace n t with hsame' | hlocal'
      · exact Or.inl ⟨hsame.1.trans hsame'.1, hsame.2.trans hsame'.2⟩
      -- set up in the first turn and kept in the second
      · exact Or.inr (hlocal'.of_same hsame portRoleSelectionTurn_systemPriority)
    · exact Or.inr hlocal

/-- **What a step does to the path trace.** -/
theorem step_trace (h : step bigEndian t input = some t') :
    SameTrace t t' ∨ LocalTrace t' ∨
      ∃ p m, input = .processRxAnnounce p m ∧ (t.ports p).selectedRole = .slave ∧
        CopiedTrace bigEndian t' m := by
  cases input with
  | processRxAnnounce p m =>
    have h : processRxAnnounce bigEndian t p m = some t' := h
    rw [processRxAnnounce, portAnnounceReceive] at h
    split at h
    · obtain ⟨r, hr, rfl⟩ := Option.map_eq_some_iff.mp h
      rcases qualifyAnnounce_trace hr with hsame | ⟨hslave, hcopied⟩
      · exact Or.inl (hsame ▸ SameTrace.refl)
      · rw [Gptpm.setPort_ports_self] at hslave
        exact Or.inr (Or.inr ⟨p, m, rfl, hslave, hcopied⟩)
    · exact Or.inl (Option.some_inj.mp h ▸ SameTrace.refl)
  | portAnnounceInformation p =>
    obtain ⟨pp, -, rfl⟩ := Option.map_eq_some_iff.mp h
    exact Or.inl SameTrace.refl
  | portRoleSelection =>
    obtain rfl := Option.some_inj.mp h
    exact portRoleSelection_trace.imp_right Or.inl
  | _ => exact Or.inl (Option.some_inj.mp h ▸ SameTrace.refl)

/-! ### The indices that are used -/

/-- The indices that `get_rx_announce_path_trace` stores to: the loop ends with the array or
with the octets that the message says there are. -/
def rxPathTraceStores (bigEndian : Bool) (m : Mem) : List ℕ :=
  (List.range maxPathTrace).takeWhile fun i => 8 * i < tlvLength bigEndian m

/-- The array of `qualifyAnnounce`, and what lies behind it. -/
def localPathTrace (beyond : ℕ → ClockIdentity) (m : Mem) (i : ℕ) : ClockIdentity :=
  if i < maxPathTrace then rxPathTrace m i else beyond i

/-- The indices that the comparing loop of `qualifyAnnounce` reads from `i` on, with so many
still to come: it ends at the first entry that is this clock. -/
def comparedIndices (entry : ℕ → ClockIdentity) (thisClock : ClockIdentity) : ℕ → ℕ → List ℕ
  | 0, _ => []
  | remaining + 1, i =>
    i :: if entry i = thisClock then [] else comparedIndices entry thisClock remaining (i + 1)

/-- The indices that `qualifyAnnounce` uses, those of `memcpy` included. -/
def qualifyAnnounceIndices (beyond : ℕ → ClockIdentity) (bigEndian : Bool) (t : Gptpm n)
    (p : Fin n) (m : Mem) : List ℕ :=
  let thisClock := t.systemPriority.sourcePortIdentity.clockIdentity
  if (getSourcePortId m).clockIdentity = thisClock then []
  else if 255 < getRxAnnounceStepsRemoved m then []
  else
    let length := rxPathTraceLength bigEndian m
    let entry := localPathTrace beyond m
    rxPathTraceStores bigEndian m ++ comparedIndices entry thisClock length 0 ++
      if (∀ i < length, entry i ≠ thisClock) ∧ (t.ports p).selectedRole = .slave then
        List.range length
      else []

/-- The indices that `transmit_announce` reads. -/
def transmitAnnounceIndices (t : Gptpm n) : List ℕ := List.range t.pathTraceLength

/-- The length that `transmit_announce` hands to `ptpex_os_tx_frame`, the Ethernet header
included. -/
def announceLength (t : Gptpm n) : ℕ := 14 + 34 + 34 + 8 * t.pathTraceLength

/-! ### Messages whose path trace fits -/

/-- If the path trace of the message is looked at, it fits the array, or this clock is in the
part that fits. -/
def FitsPathTrace (bigEndian : Bool) (t : Gptpm n) (m : Mem) : Prop :=
  let thisClock := t.systemPriority.sourcePortIdentity.clockIdentity
  (getSourcePortId m).clockIdentity ≠ thisClock → getRxAnnounceStepsRemoved m ≤ 255 →
    rxPathTraceLength bigEndian m ≤ maxPathTrace ∨
      ∃ i < maxPathTrace, rxPathTrace m i = thisClock

variable {entry : ℕ → ClockIdentity} {c : ClockIdentity} {beyond : ℕ → ClockIdentity}
  {remaining : ℕ}

theorem mem_comparedIndices : k ∈ comparedIndices entry c remaining i ↔
    i ≤ k ∧ k < i + remaining ∧ ∀ j, i ≤ j → j < k → entry j ≠ c := by
  induction remaining generalizing i with
  | zero =>
    rw [comparedIndices]
    exact iff_of_false List.not_mem_nil (by omega)
  | succ remaining ih =>
    rw [comparedIndices, List.mem_cons]
    by_cases hi : entry i = c
    · rw [if_pos hi]
      constructor
      · rintro (rfl | hk)
        · exact ⟨le_rfl, by omega, fun j hj hjk => absurd hj (by omega)⟩
        · exact absurd hk List.not_mem_nil
      · rintro ⟨hik, -, hbefore⟩
        -- the loop has ended at `i`
        rcases Nat.eq_or_lt_of_le hik with rfl | hlt
        · exact Or.inl rfl
        · exact absurd hi (hbefore i le_rfl hlt)
    · rw [if_neg hi, ih]
      constructor
      · rintro (rfl | ⟨hk, hlt, hbefore⟩)
        · exact ⟨le_rfl, by omega, fun j hj hjk => absurd hj (by omega)⟩
        · refine ⟨by omega, by omega, fun j hj hjk => ?_⟩
          rcases Nat.eq_or_lt_of_le hj with rfl | hlt'
          · exact hi
          · exact hbefore j hlt' hjk
      · rintro ⟨hik, hlt, hbefore⟩
        rcases Nat.eq_or_lt_of_le hik with rfl | hlt'
        · exact Or.inl rfl
        · exact Or.inr ⟨hlt', by omega, fun j hj hjk => hbefore j (by omega) hjk⟩

theorem rxPathTraceStores_lt (h : k ∈ rxPathTraceStores bigEndian m) : k < maxPathTrace :=
  List.mem_range.mp ((List.takeWhile_sublist _).subset h)

/-- The indices stay in the array exactly if the path trace fits. -/
theorem qualifyAnnounceIndices_lt_iff :
    (∀ k ∈ qualifyAnnounceIndices beyond bigEndian t p m, k < maxPathTrace) ↔
      FitsPathTrace bigEndian t m := by
  rw [qualifyAnnounceIndices, FitsPathTrace]
  generalize t.systemPriority.sourcePortIdentity.clockIdentity = thisClock
  generalize rxPathTraceLength bigEndian m = length
  by_cases hsource : (getSourcePortId m).clockIdentity = thisClock
  · simp only [if_pos hsource]
    exact iff_of_true (List.forall_mem_nil _) fun h => absurd hsource h
  by_cases hsteps : 255 < getRxAnnounceStepsRemoved m
  · simp only [if_neg hsource, if_pos hsteps]
    exact iff_of_true (List.forall_mem_nil _) fun _ h => absurd hsteps (Nat.not_lt.mpr h)
  simp only [if_neg hsource, if_neg hsteps, List.mem_append, mem_comparedIndices]
  constructor
  · intro h _ _
    by_contra hno
    rw [not_or, not_le] at hno
    -- the comparing loop goes on behind the array
    refine absurd (h maxPathTrace (Or.inl (Or.inr ⟨Nat.zero_le _, by omega, ?_⟩)))
      (Nat.lt_irrefl _)
    intro j _ hj heq
    rw [localPathTrace, if_pos hj] at heq
    exact hno.2 ⟨j, hj, heq⟩
  · rintro h k ((hk | ⟨-, hk, hbefore⟩) | hk)
    · exact rxPathTraceStores_lt hk
    -- the comparing loop stops at this clock before it leaves the array
    · rcases h hsource (Nat.not_lt.mp hsteps) with hle | ⟨i, hi, heq⟩
      · omega
      · by_contra hge
        refine hbefore i (Nat.zero_le _) (by omega) ?_
        rw [localPathTrace, if_pos hi, heq]
    · split at hk
      -- this clock is in no entry, so that the length fits
      case isTrue hcopy =>
        have hk := List.mem_range.mp hk
        rcases h hsource (Nat.not_lt.mp hsteps) with hle | ⟨i, hi, heq⟩
        · omega
        · by_contra hge
          refine hcopy.1 i (by omega) ?_
          rw [localPathTrace, if_pos hi, heq]
      case isFalse => exact absurd hk List.not_mem_nil

/-- The function is defined exactly where its indices stay in the array. -/
theorem qualifyAnnounce_isSome_iff : (qualifyAnnounce bigEndian t p m).isSome ↔
    ∀ k ∈ qualifyAnnounceIndices beyond bigEndian t p m, k < maxPathTrace := by
  rw [qualifyAnnounceIndices_lt_iff, FitsPathTrace]
  simp only [qualifyAnnounce]
  generalize t.systemPriority.sourcePortIdentity.clockIdentity = thisClock
  split_ifs with hsource hsteps hown hover hslave
  · exact iff_of_true rfl fun h => absurd hsource h
  · exact iff_of_true rfl fun _ h => absurd hsteps (Nat.not_lt.mpr h)
  · obtain ⟨i, hi, heq⟩ := hown
    exact iff_of_true rfl fun _ _ => Or.inr ⟨i, by omega, heq⟩
  · refine iff_of_false Bool.false_ne_true fun h => ?_
    rcases h hsource (Nat.not_lt.mp hsteps) with hle | ⟨i, hi, heq⟩
    · omega
    · exact hown ⟨i, by omega, heq⟩
  · exact iff_of_true rfl fun _ _ => Or.inl (Nat.not_lt.mp hover)
  · exact iff_of_true rfl fun _ _ => Or.inl (Nat.not_lt.mp hover)

/-! ### Along a run -/

/-- The path trace and the frame made from it stay in their arrays. -/
structure PathTraceSafe (t : Gptpm n) : Prop where
  length : t.pathTraceLength ≤ maxPathTrace
  read : ∀ k ∈ transmitAnnounceIndices t, k < maxPathTrace
  /-- with the four trailing octets -/
  fits : announceLength t + 4 ≤ 1500
  stored : ∀ host clock tx p tx', transmitAnnounce host clock t tx p = some tx' →
    ∀ a, 1500 - 14 ≤ a → tx'.ptpTxBuf a = tx.ptpTxBuf a

theorem PathTraceSafe.of_length (h : t.pathTraceLength ≤ maxPathTrace) : PathTraceSafe t := by
  have hlen : t.pathTraceLength ≤ 50 := h
  refine ⟨h, fun k hk => lt_of_lt_of_le (List.mem_range.mp hk) h, ?_, fun _ _ _ _ _ hsent a ha => ?_⟩
  · rw [announceLength]
    omega
  · exact transmitAnnounce_frame hsent (by omega)

theorem step_pathTraceLength (ht : t.pathTraceLength ≤ maxPathTrace)
    (h : step bigEndian t input = some t') : t'.pathTraceLength ≤ maxPathTrace := by
  rcases step_trace h with hsame | hlocal | ⟨p, m, -, -, hcopied⟩
  · exact hsame.1 ▸ ht
  · exact hlocal.1.le.trans maxPathTrace_pos
  · exact hcopied.2.1

theorem gptpSwInit_localTrace :
    LocalTrace (gptpSwInit mac (staticMemory systemConfig portConfig)) := by
  have hreset : LocalTrace (gptpSwReset mac (staticMemory systemConfig portConfig)) := by
    refine ⟨rfl, ?_⟩
    rw [Gptpm.pathTraceEntry, dif_pos maxPathTrace_pos]
    simp only [gptpSwReset, if_true, systemPriorityOf]
  rcases @portRoleSelection_trace n (gptpSwReset mac (staticMemory systemConfig portConfig)) with
    hsame | hlocal
  · exact hreset.of_same hsame portRoleSelection_systemPriority
  · exact hlocal

/-- **The path trace along a run.**  From `gptp_sw_init` on, the path trace and the frames made
from it stay in their arrays, and so does every index that is used on receiving a message,
exactly if every message that comes to an operational port has a path trace that fits, where
it is looked at. -/
theorem pathTrace_along_iff (bigEndian : Bool) (mac : Vector UInt8 6)
    (systemConfig : SystemConfig) (portConfig : Fin n → PortConfig) (inputs : List (Input n)) :
    (Runs.Throughout (step bigEndian) PathTraceSafe
          (gptpSwInit mac (staticMemory systemConfig portConfig)) inputs ∧
        Runs.AtEach (step bigEndian)
          (fun t input => ∀ p m, input = .processRxAnnounce p m → (t.ports p).operational →
            ∀ beyond, ∀ k ∈ qualifyAnnounceIndices beyond bigEndian t p m, k < maxPathTrace)
          (gptpSwInit mac (staticMemory systemConfig portConfig)) inputs) ↔
      Runs.AtEach (step bigEndian)
        (fun t input => ∀ p m, input = .processRxAnnounce p m → (t.ports p).operational →
          FitsPathTrace bigEndian t m)
        (gptpSwInit mac (staticMemory systemConfig portConfig)) inputs := by
  have hsafe : Runs.Throughout (step bigEndian) PathTraceSafe
      (gptpSwInit mac (staticMemory systemConfig portConfig)) inputs := by
    intro pre t _ hrun
    have hinit : (gptpSwInit mac (staticMemory systemConfig portConfig)).pathTraceLength ≤
        maxPathTrace := gptpSwInit_localTrace.1.le.trans maxPathTrace_pos
    exact .of_length (Runs.run_invariant (I := fun t => t.pathTraceLength ≤ maxPathTrace)
      step_pathTraceLength hinit hrun)
  rw [and_iff_right hsafe]
  refine Runs.atEach_congr (K := fun _ => True) (fun _ _ => trivial) (fun input _ t _ => ?_) trivial
  refine forall₂_congr fun p m => imp_congr_right fun _ => imp_congr_right fun _ => ?_
  constructor
  · -- the indices do not depend on what lies behind the array, so anything may be put there
    intro h
    exact qualifyAnnounceIndices_lt_iff.mp (h fun _ => t.systemPriority.sourcePortIdentity.clockIdentity)
  · intro h beyond
    exact qualifyAnnounceIndices_lt_iff.mpr h

/-! ### A path trace that is too long -/

/-- An Announce message whose TLV is 408 octets long, which is one entry more than fits. -/
def longAnnounce : Mem := fun k =>
  if k = 47 then 100 else if k = 66 then 1 else if k = 67 then 152 else if k = 20 ∨ k = 53 then 1
  else 0

/-- It comes in on port 0, before anything else. -/
def longReception : List (Input 2) := [.processRxAnnounce port0 longAnnounce]

/-- **An index behind the array is read.** -/
theorem longAnnounce_not_safe :
    ¬ (Runs.Throughout (step true) PathTraceSafe
          (gptpSwInit #v[0x00, 0x0A, 0x35, 0x00, 0x22, 0xFF]
            (staticMemory ⟨248, 248⟩ fun _ => ⟨3, 3⟩)) longReception ∧
        Runs.AtEach (step true)
          (fun t input => ∀ p m, input = .processRxAnnounce p m → (t.ports p).operational →
            ∀ beyond, ∀ k ∈ qualifyAnnounceIndices beyond true t p m, k < maxPathTrace)
          (gptpSwInit #v[0x00, 0x0A, 0x35, 0x00, 0x22, 0xFF]
            (staticMemory ⟨248, 248⟩ fun _ => ⟨3, 3⟩)) longReception) := by
  rintro ⟨-, h⟩
  have hindices := h.1 0 longAnnounce rfl (by decide +kernel) (fun _ => Vector.replicate 8 0)
  refine absurd (qualifyAnnounce_isSome_iff.mpr hindices) ?_
  decide +kernel

end Gptp
