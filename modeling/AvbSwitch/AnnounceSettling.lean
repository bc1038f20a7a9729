/-
Where the PortAnnounceInformation machine comes to rest.

The loop stops in the first turn that does not change the state, and no entry action leads
back to the state it is entered from, so that it stops where no transition is left
(`nextState_of_rests`).  What it leaves in a port can then be followed turn by turn
(`Rests`), without a count of the turns.

* `portAnnounceInformation_settles` — from every state of the port the machine stops, and
  nothing that it could still do is left undone;
* `Rests.of_current` — what a port holds after the machine has run from its state
  CURRENT: the smaller of what it holds itself and what it has received.
-/
import AvbSwitch.GptpRuns

open Octets OctetOrder

namespace Gptp

variable {n : ℕ} {t t' : Gptpm n} {p : Fin n} {pp pp' r : Port} {m : Mem} {gmPresent : Bool}
  {masterStepsRemoved : UInt16} {port fuel : ℕ} {s : PortAnnounceInformationState}

/-! ### Turns without a count -/

/-- The loop, started on `pp`, stops with `r`. -/
def Rests (gmPresent : Bool) (masterStepsRemoved : UInt16) (port : ℕ) (pp r : Port) : Prop :=
  ∃ fuel, turns gmPresent masterStepsRemoved port fuel pp = some r

/-- No state is entered from itself. -/
theorem nextState_ne (h : nextState gmPresent pp = some s) :
    pp.portAnnounceInformationState ≠ s := by
  rw [nextState] at h
  rintro rfl
  cases hop : pp.operational
  · simp only [hop, Bool.false_eq_true, if_false, Option.ite_none_left_eq_some] at h
    exact h.1 (Option.some_inj.mp h.2).symm
  · simp only [hop, if_true] at h
    cases hstate : pp.portAnnounceInformationState <;> simp only [hstate] at h <;> grind

theorem Rests.of_none (h : Rests gmPresent masterStepsRemoved port pp r)
    (hnext : nextState gmPresent pp = none) : r = pp := by
  obtain ⟨fuel, hturns⟩ := h
  cases fuel with
  | zero => cases hturns
  | succ fuel =>
    rw [turns, turn_of_none hnext, Option.bind_some, if_pos rfl] at hturns
    exact (Option.some_inj.mp hturns).symm

theorem Rests.of_some (h : Rests gmPresent masterStepsRemoved port pp r)
    (hnext : nextState gmPresent pp = some s) :
    ∃ pp', setState masterStepsRemoved port pp s = some pp' ∧
      Rests gmPresent masterStepsRemoved port pp' r := by
  obtain ⟨fuel, hturns⟩ := h
  cases fuel with
  | zero => cases hturns
  | succ fuel =>
    rw [turns, turn_of_some hnext] at hturns
    obtain ⟨pp', hset, hrest⟩ := Option.bind_eq_some_iff.mp hturns
    rw [if_neg (setState_state hset ▸ nextState_ne hnext)] at hrest
    exact ⟨pp', hset, fuel, hrest⟩

/-- Where the loop stops, there is no transition. -/
theorem nextState_of_rests (h : Rests gmPresent masterStepsRemoved port pp r) :
    nextState gmPresent r = none := by
  obtain ⟨fuel, hturns⟩ := h
  induction fuel generalizing pp with
  | zero => cases hturns
  | succ fuel ih =>
    match hnext : nextState gmPresent pp with
    | none =>
      rw [Rests.of_none ⟨fuel + 1, hturns⟩ hnext]
      exact hnext
    | some s =>
      rw [turns, turn_of_some hnext] at hturns
      obtain ⟨pp₁, hset, hrest⟩ := Option.bind_eq_some_iff.mp hturns
      rw [if_neg (setState_state hset ▸ nextState_ne hnext)] at hrest
      exact ih hrest

theorem Rests.operational (h : Rests gmPresent masterStepsRemoved port pp r) :
    r.operational = pp.operational := by
  obtain ⟨fuel, hturns⟩ := h
  have hkeep := turns_invariant (I := fun q => q.operational = pp.operational)
    (fun hq _ hset => (setState_operational hset).trans hq) rfl hturns
  exact hkeep

theorem portAnnounceInformation_rests (h : portAnnounceInformation t p = some t') :
    ∃ r, Rests t.gmPresent t.masterStepsRemoved p (t.ports p) r ∧ t' = t.setPort p r := by
  obtain ⟨r, hturns, rfl⟩ := Option.map_eq_some_iff.mp h
  exact ⟨r, ⟨8, hturns⟩, rfl⟩

/-! ### Nothing is left undone -/

/-- How the machine leaves a port: disabled, or with neither an update nor a message that it
could still take. -/
def Settled (pp : Port) : Prop :=
  if pp.operational then
    (pp.portAnnounceInformationState = .aged ∨ pp.portAnnounceInformationState = .current) ∧
      ¬(pp.selected ∧ pp.updtInfo) ∧
      (pp.portAnnounceInformationState = .current → ¬(pp.rcvdMsg ∧ ¬pp.updtInfo))
  else pp.portAnnounceInformationState = .disabled

theorem settled_of_nextState (h : nextState gmPresent pp = none) : Settled pp := by
  rw [nextState] at h
  rw [Settled]
  cases hop : pp.operational
  · simp only [hop, Bool.false_eq_true, if_false] at h ⊢
    by_contra hstate
    rw [if_neg hstate] at h
    cases h
  · simp only [hop, if_true] at h ⊢
    -- only two states have a turn without a transition
    cases hstate : pp.portAnnounceInformationState <;> simp only [hstate] at h <;> grind

/-- A port that does not take part is disabled at once. -/
theorem turns_isSome_of_not_operational (hop : pp.operational = false) (hfuel : 1 < fuel) :
    (turns gmPresent masterStepsRemoved port fuel pp).isSome := by
  obtain ⟨fuel, rfl⟩ : ∃ k, fuel = k + 2 := ⟨fuel - 2, by omega⟩
  rw [turns]
  cases hnext : nextState gmPresent pp with
  | none => rw [turn_of_none hnext, Option.bind_some, if_pos rfl, Option.isSome_some]
  | some s =>
    obtain rfl : s = .disabled := by
      rw [nextState, hop] at hnext
      simp only [Bool.false_eq_true, if_false, Option.ite_none_left_eq_some] at hnext
      exact (Option.some_inj.mp hnext.2).symm
    obtain ⟨pp', hset⟩ : ∃ pp', setState masterStepsRemoved port pp .disabled = some pp' := ⟨_, rfl⟩
    rw [turn_of_some hnext, hset, Option.bind_some]
    split
    · rfl
    · -- the second turn finds the port disabled
      have hrest : nextState gmPresent pp' = none := by
        rw [nextState, setState_operational hset, hop, setState_state hset]
        rfl
      rw [turns, turn_of_none hrest, Option.bind_some, if_pos rfl]
      rfl

/-- **The machine stops, and leaves nothing undone.**  From every state of a port, with a frame
behind the pointer where the machine of an operational port reads one, the loop ends. -/
theorem portAnnounceInformation_settles (t : Gptpm n) (p : Fin n)
    (hread : (t.ports p).operational → Readable (t.ports p)) :
    ∃ t', portAnnounceInformation t p = some t' ∧
      (t'.ports p).operational = (t.ports p).operational ∧ Settled (t'.ports p) := by
  have hsome : (portAnnounceInformation t p).isSome := by
    cases hop : (t.ports p).operational
    · rw [portAnnounceInformation, Option.isSome_map]
      exact turns_isSome_of_not_operational hop (Nat.lt_of_sub_eq_succ rfl)
    · exact portAnnounceInformation_isSome (hread hop)
  obtain ⟨t', ht'⟩ := Option.isSome_iff_exists.mp hsome
  obtain ⟨r, hrests, rfl⟩ := portAnnounceInformation_rests ht'
  refine ⟨_, ht', ?_, ?_⟩ <;> rw [Gptpm.setPort_ports_self]
  · exact hrests.operational
  · exact settled_of_nextState (nextState_of_rests hrests)

/-- An instance with one port, right after `gptp_sw_init`. -/
def freshGptpm : Gptpm 1 :=
  gptpSwInit (Vector.replicate 6 0) (staticMemory ⟨248, 248⟩ fun _ => ⟨3, 3⟩)

/-- Its port in the state CURRENT, with a message behind the pointer. -/
def pendingGptpm : Gptpm 1 :=
  freshGptpm.setPort ⟨0, Nat.one_pos⟩
    { freshGptpm.ports ⟨0, Nat.one_pos⟩ with
      portAnnounceInformationState := .current
      rcvdAnnouncePtr := some fun _ => 0
      rcvdMsg := true }

/-- The machine looks at the message, and takes it. -/
theorem portAnnounceInformation_settles_pending :
    (pendingGptpm.ports ⟨0, Nat.one_pos⟩).operational = true ∧
      ∃ t', portAnnounceInformation pendingGptpm ⟨0, Nat.one_pos⟩ = some t' ∧
        (t'.ports ⟨0, Nat.one_pos⟩).operational =
          (pendingGptpm.ports ⟨0, Nat.one_pos⟩).operational ∧
        Settled (t'.ports ⟨0, Nat.one_pos⟩) := by
  refine ⟨by decide +kernel, ?_⟩
  refine portAnnounceInformation_settles pendingGptpm ⟨0, Nat.one_pos⟩ fun _ _ => ?_
  rw [pendingGptpm, Gptpm.setPort_ports_self]
  rfl

/-! ### What the entry actions write -/

/-- The information that an entry action leaves. -/
theorem setState_information (h : setState masterStepsRemoved port pp s = some pp') :
    (pp'.portPriority, pp'.infoIs) =
      match s with
      | .begin | .disabled => (.memset 0xFF, .disabled)
      | .aged => (pp.portPriority, .aged)
      | .update => (pp.masterPriority, .mine)
      | .superiorMasterPort => (pp.messagePriority, .received)
      | .repeatedMasterPort | .inferiorMasterOrOtherPort | .current | .receive =>
        (pp.portPriority, pp.infoIs) := by
  cases s <;> simp only [setState, Option.some_inj, Option.map_eq_some_iff] at h
  case superiorMasterPort | receive =>
    obtain ⟨m, -, rfl⟩ := h
    rfl
  all_goals exact h ▸ rfl

/-- What is learnt about a message on receiving it. -/
theorem setState_receive (h : setState masterStepsRemoved port pp .receive = some pp') :
    ∃ m, pp.rcvdAnnouncePtr = some m ∧ pp'.messagePriority = extractAnnounce m port ∧
      pp'.rcvdInfo =
        match memcmp pp.portPriority.octets (extractAnnounce m port).octets with
        | .gt => .superiorMasterInfo
        | .eq => .repeatedMasterInfo
        | .lt => .inferiorMasterInfo := by
  obtain ⟨m, hm, rfl⟩ := Option.map_eq_some_iff.mp h
  exact ⟨m, hm, rfl, rfl⟩

/-- The information has timed out, with no update and no message in between. -/
def Port.timedOut (gmPresent : Bool) (pp : Port) : Bool :=
  pp.announceTimeout || pp.syncTimeout && gmPresent

/-- A counter that stands at zero stays there. -/
theorem setState_timedOut (gmPresent : Bool) (hcounter : pp.announceTimeoutCounter = 0)
    (h : setState masterStepsRemoved port pp s = some pp') :
    pp'.announceTimeoutCounter = 0 ∧ pp'.timedOut gmPresent = pp.timedOut gmPresent := by
  have hsame : ∀ {q : Port}, q.announceTimeoutCounter = pp.announceTimeoutCounter →
      q.announceIntervalTicks = pp.announceIntervalTicks →
      q.announceReceiptTimeout = pp.announceReceiptTimeout → q.syncTimeout = pp.syncTimeout →
      q.announceTimeoutCounter = 0 ∧ q.timedOut gmPresent = pp.timedOut gmPresent := by
    intro q h₁ h₂ h₃ h₄
    rw [Port.timedOut, Port.timedOut, Port.announceTimeout, Port.announceTimeout, h₁, h₂, h₃, h₄]
    exact ⟨hcounter, rfl⟩
  cases s <;> simp only [setState, Option.some_inj, Option.map_eq_some_iff] at h
  case superiorMasterPort | receive =>
    obtain ⟨m, -, rfl⟩ := h
    first | exact hsame hcounter.symm rfl rfl rfl | exact hsame rfl rfl rfl rfl
  all_goals
    subst h
    first | exact hsame rfl rfl rfl rfl | exact hsame hcounter.symm rfl rfl rfl

/-! ### What a run leaves in a port -/

/-- A port in its state CURRENT that takes part in the protocol. -/
structure InCurrent (pp : Port) : Prop where
  operational : pp.operational
  state : pp.portAnnounceInformationState = .current

/-- A port that takes part no more is disabled. -/
theorem Rests.of_not_operational (hop : pp.operational = false)
    (hstate : pp.portAnnounceInformationState ≠ .disabled)
    (h : Rests gmPresent masterStepsRemoved port pp r) :
    (r.portPriority, r.infoIs) = (.memset 0xFF, .disabled) ∧ r.rcvdMsg = false ∧
      r.portAnnounceInformationState = .disabled := by
  have hnext : nextState gmPresent pp = some .disabled := by
    rw [nextState, if_neg (by rw [hop]; exact Bool.false_ne_true), if_neg hstate]
  obtain ⟨pp', hset, hrest⟩ := h.of_some hnext
  have hstop : nextState gmPresent pp' = none := by
    rw [nextState, setState_operational hset, hop, if_neg Bool.false_ne_true,
      if_pos (setState_state hset)]
  obtain rfl := hrest.of_none hstop
  exact ⟨setState_information hset, (Prod.mk.inj (setState_flags hset)).1, setState_state hset⟩

/-- A port that starts anew is without information. -/
theorem Rests.of_begin (hop : pp.operational) (hstate : pp.portAnnounceInformationState = .begin)
    (h : Rests gmPresent masterStepsRemoved port pp r) :
    r.infoIs = .aged ∧ r.rcvdMsg = false := by
  have hdisabled : nextState gmPresent pp = some .disabled := by
    rw [nextState, if_pos hop, hstate]
  obtain ⟨pp₁, hset₁, hrest₁⟩ := h.of_some hdisabled
  have hop₁ : pp₁.operational := (setState_operational hset₁).trans hop
  have haged : nextState gmPresent pp₁ = some .aged := by
    rw [nextState, if_pos hop₁, setState_state hset₁]
  obtain ⟨pp₂, hset₂, hrest₂⟩ := hrest₁.of_some haged
  obtain ⟨hmsg₂, hflags₂⟩ := Prod.mk.inj (setState_flags hset₂)
  -- it stays there until a role is selected
  have hstop : nextState gmPresent pp₂ = none := by
    rw [nextState, if_pos ((setState_operational hset₂).trans hop₁), setState_state hset₂,
      (Prod.mk.inj hflags₂).1]
    rfl
  obtain rfl := hrest₂.of_none hstop
  exact ⟨(Prod.mk.inj (setState_information hset₂)).2,
    hmsg₂.trans (Prod.mk.inj (setState_flags hset₁)).1⟩

/-- From a state that only leads to CURRENT. -/
theorem Rests.to_current (hop : pp.operational)
    (hstate : pp.portAnnounceInformationState = .update ∨
      pp.portAnnounceInformationState = .superiorMasterPort ∨
      pp.portAnnounceInformationState = .repeatedMasterPort ∨
      pp.portAnnounceInformationState = .inferiorMasterOrOtherPort)
    (h : Rests gmPresent masterStepsRemoved port pp r) :
    ∃ pp', Rests gmPresent masterStepsRemoved port pp' r ∧ InCurrent pp' ∧
      setState masterStepsRemoved port pp .current = some pp' := by
  have hnext : nextState gmPresent pp = some .current := by
    rw [nextState, if_pos hop]
    rcases hstate with hstate | hstate | hstate | hstate <;> rw [hstate]
  obtain ⟨pp', hset, hrest⟩ := h.of_some hnext
  exact ⟨pp', hrest, ⟨(setState_operational hset).trans hop, setState_state hset⟩, hset⟩

/-- Without an update and a message, all that can happen is that the information ages. -/
theorem Rests.of_idle (hcur : InCurrent pp) (hupdt : pp.updtInfo = false)
    (hmsg : pp.rcvdMsg = false) (h : Rests gmPresent masterStepsRemoved port pp r) :
    r.portPriority = pp.portPriority ∧ r.rcvdMsg = false ∧
      (r.infoIs = .received ↔ pp.infoIs = .received ∧ pp.timedOut gmPresent = false) := by
  have hnext : nextState gmPresent pp =
      if pp.infoIs = .received ∧ pp.timedOut gmPresent then some .aged else none := by
    rw [nextState, if_pos hcur.operational, hcur.state]
    simp only [hupdt, hmsg, Bool.and_false, Bool.false_and, Bool.false_eq_true, if_false,
      Bool.not_false, and_true]
    rfl
  by_cases hage : pp.infoIs = .received ∧ pp.timedOut gmPresent
  · rw [if_pos hage] at hnext
    obtain ⟨pp', hset, hrest⟩ := h.of_some hnext
    -- an aged port asks for a selection, and stays aged until then
    have hstop : nextState gmPresent pp' = none := by
      have hflags := setState_flags hset
      rw [nextState, if_pos ((setState_operational hset).trans hcur.operational),
        setState_state hset, (Prod.mk.inj (Prod.mk.inj hflags).2).1]
      rfl
    obtain rfl := hrest.of_none hstop
    obtain ⟨hvector, hinfo⟩ := Prod.mk.inj (setState_information hset)
    refine ⟨hvector, (Prod.mk.inj (setState_flags hset)).1.trans hmsg,
      iff_of_false ?_ fun hboth => ?_⟩
    · rw [hinfo]
      exact InfoIs.noConfusion
    · exact Bool.false_ne_true (hboth.2.symm.trans hage.2)
  · rw [if_neg hage] at hnext
    obtain rfl := h.of_none hnext
    refine ⟨rfl, hmsg, (and_iff_left_of_imp fun hreceived => ?_).symm⟩
    exact Bool.eq_false_iff.mpr fun htimeout => hage ⟨hreceived, htimeout⟩

/-- The turns in which a message is taken, up to the state CURRENT again. -/
theorem Rests.turns_of_message (hcur : InCurrent pp) (hupdt : pp.updtInfo = false)
    (hmsg : pp.rcvdMsg = true) (h : Rests gmPresent masterStepsRemoved port pp r) :
    ∃ m s pp₁ pp₂ pp', pp.rcvdAnnouncePtr = some m ∧
      setState masterStepsRemoved port pp .receive = some pp₁ ∧
      setState masterStepsRemoved port pp₁ s = some pp₂ ∧
      setState masterStepsRemoved port pp₂ .current = some pp' ∧
      Rests gmPresent masterStepsRemoved port pp' r ∧
      InCurrent pp' ∧ pp'.updtInfo = false ∧ pp'.rcvdMsg = false ∧
      (pp'.portPriority, pp'.infoIs) =
        (if (extractAnnounce m port).value < pp.portPriority.value then
          (extractAnnounce m port, .received) else (pp.portPriority, pp.infoIs)) := by
  have hnext : nextState gmPresent pp = some .receive := by
    rw [nextState, if_pos hcur.operational, hcur.state]
    simp only [hupdt, hmsg, Bool.and_false, Bool.false_eq_true, if_false, Bool.not_false,
      Bool.and_self, if_true]
  obtain ⟨pp₁, hset₁, hrest₁⟩ := h.of_some hnext
  obtain ⟨m, hm, hmessage, hrcvd⟩ := setState_receive hset₁
  have hop₁ : pp₁.operational := (setState_operational hset₁).trans hcur.operational
  obtain ⟨hvector₁, hinfo₁⟩ := Prod.mk.inj (setState_information hset₁)
  have hflags₁ := setState_flags hset₁
  have hupdt₁ : pp₁.updtInfo = false := (Prod.mk.inj (Prod.mk.inj hflags₁).2).2.trans hupdt
  rw [PriorityVector.memcmp_eq_compare] at hrcvd
  -- which of three states comes next is what the comparison says
  obtain ⟨s, hnext₁, hs, hinformation⟩ : ∃ s, nextState gmPresent pp₁ = some s ∧
      (s = .superiorMasterPort ∨ s = .repeatedMasterPort ∨ s = .inferiorMasterOrOtherPort) ∧
      ∀ pp₂, setState masterStepsRemoved port pp₁ s = some pp₂ →
        (pp₂.portPriority, pp₂.infoIs) =
          if (extractAnnounce m port).value < pp.portPriority.value then
            (extractAnnounce m port, .received) else (pp.portPriority, pp.infoIs) := by
    rw [nextState, if_pos hop₁, setState_state hset₁, hrcvd]
    cases hcompare : compare pp.portPriority.value (extractAnnounce m port).value with
    | gt =>
      refine ⟨_, rfl, Or.inl rfl, fun pp₂ hset₂ => ?_⟩
      rw [setState_information hset₂, if_pos (compare_gt_iff_gt.mp hcompare), hmessage]
    | eq =>
      refine ⟨_, rfl, Or.inr (Or.inl rfl), fun pp₂ hset₂ => ?_⟩
      rw [setState_information hset₂, if_neg (compare_eq_iff_eq.mp hcompare).le.not_gt, hvector₁,
        hinfo₁]
    | lt =>
      refine ⟨_, rfl, Or.inr (Or.inr rfl), fun pp₂ hset₂ => ?_⟩
      rw [setState_information hset₂, if_neg (compare_lt_iff_lt.mp hcompare).not_gt, hvector₁,
        hinfo₁]
  obtain ⟨pp₂, hset₂, hrest₂⟩ := hrest₁.of_some hnext₁
  have hflags₂ : pp₂.rcvdMsg = false ∧ pp₂.updtInfo = false := by
    have hflags := setState_flags hset₂
    rcases hs with rfl | rfl | rfl <;> simp only [Prod.mk.injEq, hupdt₁] at hflags <;>
      exact ⟨hflags.1, hflags.2.2⟩
  obtain ⟨pp₃, hrest₃, hcur₃, hset₃⟩ := hrest₂.to_current
    ((setState_operational hset₂).trans hop₁)
    (Or.inr (by rw [setState_state hset₂]; exact hs))
  have hflags₃ := setState_flags hset₃
  refine ⟨m, s, pp₁, pp₂, pp₃, hm, hset₁, hset₂, hset₃, hrest₃, hcur₃, ?_, ?_, ?_⟩
  · exact (Prod.mk.inj (Prod.mk.inj hflags₃).2).2.trans hflags₂.2
  · exact (Prod.mk.inj hflags₃).1.trans hflags₂.1
  · exact (setState_information hset₃).trans (hinformation pp₂ hset₂)

/-- A message is taken: the port then stands as before, with the smaller of the two vectors. -/
theorem Rests.of_message (hcur : InCurrent pp) (hupdt : pp.updtInfo = false)
    (hmsg : pp.rcvdMsg = true) (h : Rests gmPresent masterStepsRemoved port pp r) :
    ∃ m pp', pp.rcvdAnnouncePtr = some m ∧ Rests gmPresent masterStepsRemoved port pp' r ∧
      InCurrent pp' ∧ pp'.updtInfo = false ∧ pp'.rcvdMsg = false ∧
      (pp'.portPriority, pp'.infoIs) =
        (if (extractAnnounce m port).value < pp.portPriority.value then
          (extractAnnounce m port, .received) else (pp.portPriority, pp.infoIs)) ∧
      (pp.announceTimeoutCounter = 0 → pp'.timedOut gmPresent = pp.timedOut gmPresent) := by
  obtain ⟨m, s, pp₁, pp₂, pp', hm, hset₁, hset₂, hset₃, hrest, hcur', hupdt', hmsg',
    hinformation⟩ := h.turns_of_message hcur hupdt hmsg
  refine ⟨m, pp', hm, hrest, hcur', hupdt', hmsg', hinformation, fun hcounter => ?_⟩
  obtain ⟨hcounter₁, htimeout₁⟩ := setState_timedOut gmPresent hcounter hset₁
  obtain ⟨hcounter₂, htimeout₂⟩ := setState_timedOut gmPresent hcounter₁ hset₂
  exact ((setState_timedOut gmPresent hcounter₂ hset₃).2.trans htimeout₂).trans htimeout₁

/-- An update is made: the port then stands as before, with its own vector. -/
theorem Rests.of_update (hcur : InCurrent pp) (hupdt : (pp.selected && pp.updtInfo) = true)
    (h : Rests gmPresent masterStepsRemoved port pp r) :
    ∃ pp', Rests gmPresent masterStepsRemoved port pp' r ∧ InCurrent pp' ∧ pp'.updtInfo = false ∧
      pp'.rcvdMsg = pp.rcvdMsg ∧ pp'.rcvdAnnouncePtr = pp.rcvdAnnouncePtr ∧
      (pp'.portPriority, pp'.infoIs) = (pp.masterPriority, .mine) ∧
      (pp.announceTimeoutCounter = 0 → pp'.announceTimeoutCounter = 0 ∧
        pp'.timedOut gmPresent = pp.timedOut gmPresent) := by
  have hnext : nextState gmPresent pp = some .update := by
    rw [nextState, if_pos hcur.operational, hcur.state]
    simp only [hupdt, if_true]
  obtain ⟨pp₁, hset₁, hrest₁⟩ := h.of_some hnext
  obtain ⟨pp₂, hrest₂, hcur₂, hset₂⟩ := hrest₁.to_current
    ((setState_operational hset₁).trans hcur.operational) (Or.inl (setState_state hset₁))
  obtain ⟨hmsg₁, hflags₁⟩ := Prod.mk.inj (setState_flags hset₁)
  obtain ⟨hmsg₂, hflags₂⟩ := Prod.mk.inj (setState_flags hset₂)
  refine ⟨pp₂, hrest₂, hcur₂, ?_, hmsg₂.trans hmsg₁, ?_, ?_, fun hcounter => ?_⟩
  · exact (Prod.mk.inj hflags₂).2.trans (Prod.mk.inj hflags₁).2
  · exact (setState_rcvdAnnouncePtr hset₂).trans (setState_rcvdAnnouncePtr hset₁)
  · exact (setState_information hset₂).trans (setState_information hset₁)
  · obtain ⟨hcounter₁, htimeout₁⟩ := setState_timedOut gmPresent hcounter hset₁
    obtain ⟨hcounter₂, htimeout₂⟩ := setState_timedOut gmPresent hcounter₁ hset₂
    exact ⟨hcounter₂, htimeout₂.trans htimeout₁⟩

/-- The information that a port holds once an update that is due has been made. -/
def Port.held (pp : Port) : PriorityVector × InfoIs :=
  if pp.selected && pp.updtInfo then (pp.masterPriority, .mine) else (pp.portPriority, pp.infoIs)

/-- The information that it holds once a message that is pending has been taken as well. -/
def Port.taken (port : ℕ) (pp : Port) : PriorityVector × InfoIs :=
  match pp.rcvdAnnouncePtr with
  | some m =>
    if pp.rcvdMsg ∧ (extractAnnounce m port).value < pp.held.1.value then
      (extractAnnounce m port, .received)
    else pp.held
  | none => pp.held

/-- From CURRENT without a pending update. -/
theorem Rests.of_updated (hcur : InCurrent pp) (hupdt : pp.updtInfo = false)
    (h : Rests gmPresent masterStepsRemoved port pp r) :
    r.portPriority = (pp.taken port).1 ∧ r.rcvdMsg = false ∧ (pp.announceTimeoutCounter = 0 →
      (r.infoIs = .received ↔ (pp.taken port).2 = .received ∧ pp.timedOut gmPresent = false)) := by
  have hheld : pp.held = (pp.portPriority, pp.infoIs) := by
    rw [Port.held, hupdt, Bool.and_false]
    rfl
  cases hmsg : pp.rcvdMsg
  · have htaken : pp.taken port = pp.held := by
      rw [Port.taken, hmsg]
      split
      · rw [if_neg fun hboth => Bool.false_ne_true hboth.1]
      · rfl
    obtain ⟨hvector, hmsg', hinfo⟩ := h.of_idle hcur hupdt hmsg
    rw [htaken, hheld]
    exact ⟨hvector, hmsg', fun _ => hinfo⟩
  · obtain ⟨m, pp', hm, hrest, hcur', hupdt', hmsg', hinformation, htimeout⟩ :=
      h.of_message hcur hupdt hmsg
    obtain ⟨hvector, hmsg'', hinfo⟩ := hrest.of_idle hcur' hupdt' hmsg'
    have htaken : pp.taken port = (pp'.portPriority, pp'.infoIs) := by
      rw [Port.taken, hm, hinformation, hheld]
      simp only [hmsg, true_and]
    rw [htaken]
    refine ⟨hvector, hmsg'', fun hcounter => ?_⟩
    rw [hinfo, htimeout hcounter]

/-- **What a run from CURRENT leaves in a port.**  The update that is due is made first; then the
message that is pending is taken, if it is better; and what is received may age at once. -/
theorem Rests.of_current (hcur : InCurrent pp) (hupdt : pp.updtInfo → pp.selected)
    (h : Rests gmPresent masterStepsRemoved port pp r) :
    r.portPriority = (pp.taken port).1 ∧ r.rcvdMsg = false ∧ (pp.announceTimeoutCounter = 0 →
      (r.infoIs = .received ↔ (pp.taken port).2 = .received ∧ pp.timedOut gmPresent = false)) := by
  cases hu : pp.updtInfo
  · exact h.of_updated hcur hu
  · have hdue : (pp.selected && pp.updtInfo) = true := by rw [hupdt hu, hu]; rfl
    obtain ⟨pp', hrest, hcur', hupdt', hmsg, hptr, hinformation, hcounter⟩ := h.of_update hcur hdue
    obtain ⟨hvector, hmsg', hinfo⟩ := hrest.of_updated hcur' hupdt'
    have hheld : pp'.held = pp.held := by
      rw [Port.held, Port.held, hupdt', Bool.and_false, if_pos hdue, if_neg Bool.false_ne_true,
        hinformation]
    have htaken : pp'.taken port = pp.taken port := by
      rw [Port.taken, Port.taken, hptr, hmsg, hheld]
    rw [htaken] at hvector hinfo
    refine ⟨hvector, hmsg', fun hzero => ?_⟩
    obtain ⟨hzero', htimeout⟩ := hcounter hzero
    rw [hinfo hzero', htimeout]

end Gptp
