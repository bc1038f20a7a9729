/-
Announce messages that are each taken by the machine.

A port in CURRENT that has no update to make takes a message, compares its vector with the one it
holds, and is in CURRENT again (`Ready`).  So a sequence of messages is a fold of `min` over their
vectors, which does not depend on their order:

* `announceStep_ready` — one message;
* `run_announceStep` — a sequence of them;
* `announces_least` — the port is left with the lexicographically least of the vectors, and with
  `InfoIs_Received` if one of them was better than what it held.
-/
import AvbSwitch.AnnounceWindow

open Octets

namespace Gptp

variable {n : ℕ} {t t' u : Gptpm n} {p : Fin n} {pp pp' r : Port} {m : Mem} {ms : List Mem}
  {bigEndian gmPresent : Bool} {masterStepsRemoved : UInt16} {port : ℕ}
  {s : PortAnnounceInformationState}

/-! ### The least of a list -/

/-- The fold of `min` is the least of the list and the start. -/
theorem isLeast_foldl_min {α : Type*} [LinearOrder α] (a : α) (l : List α) :
    IsLeast {x | x ∈ a :: l} (l.foldl min a) := by
  induction l generalizing a with
  | nil => exact ⟨List.mem_cons_self, fun x hx => (List.mem_singleton.mp hx).ge⟩
  | cons b l ih =>
    obtain ⟨hmem, hle⟩ := ih (min a b)
    constructor
    · rcases List.mem_cons.mp hmem with heq | hmem
      · -- the least is one of the first two
        show l.foldl min (min a b) ∈ a :: b :: l
        rw [heq]
        rcases min_choice a b with h | h
        · rw [h]
          exact List.mem_cons_self
        · rw [h]
          exact List.mem_cons_of_mem a List.mem_cons_self
      · exact List.mem_cons_of_mem a (List.mem_cons_of_mem b hmem)
    · intro x hx
      have hfirst : l.foldl min (min a b) ≤ min a b := hle List.mem_cons_self
      rcases List.mem_cons.mp hx with rfl | hx
      · exact hfirst.trans (min_le_left x b)
      · rcases List.mem_cons.mp hx with rfl | hx
        · exact hfirst.trans (min_le_right a x)
        · exact hle (List.mem_cons_of_mem _ hx)

/-! ### One message -/

/-- The port is in CURRENT, with nothing to update, and what it holds has not timed out. -/
structure Ready (gmPresent : Bool) (pp : Port) : Prop where
  current : InCurrent pp
  updtInfo : pp.updtInfo = false
  timedOut : pp.timedOut gmPresent = false

/-- What has not timed out does not time out when a counter is reset. -/
theorem setState_fresh (hfresh : pp.timedOut gmPresent = false)
    (h : setState masterStepsRemoved port pp s = some pp') : pp'.timedOut gmPresent = false := by
  have hkept : ∀ {q : Port},
      (q.announceTimeoutCounter = pp.announceTimeoutCounter ∨ q.announceTimeoutCounter = 0) →
      q.announceIntervalTicks = pp.announceIntervalTicks →
      q.announceReceiptTimeout = pp.announceReceiptTimeout → q.syncTimeout = pp.syncTimeout →
      q.timedOut gmPresent = false := by
    intro q hcounter h₂ h₃ h₄
    rw [Port.timedOut, Bool.or_eq_false_iff] at hfresh ⊢
    rw [h₄]
    refine ⟨?_, hfresh.2⟩
    rcases hcounter with hcounter | hcounter
    · rw [Port.announceTimeout, h₂, h₃, hcounter]
      exact hfresh.1
    · have hlt := of_decide_eq_false hfresh.1
      rw [Port.announceTimeout, h₂, h₃, hcounter]
      refine decide_eq_false fun hle => hlt (UInt32.le_trans hle ?_)
      exact UInt32.le_iff_toNat_le.mpr (Nat.zero_le _)
  cases s <;> simp only [setState, Option.some_inj, Option.map_eq_some_iff] at h
  case superiorMasterPort =>
    obtain ⟨m, -, rfl⟩ := h
    exact hkept (Or.inr rfl) rfl rfl rfl
  case receive =>
    obtain ⟨m, -, rfl⟩ := h
    exact hkept (Or.inl rfl) rfl rfl rfl
  case begin | disabled | repeatedMasterPort => exact h ▸ hkept (Or.inr rfl) rfl rfl rfl
  all_goals exact h ▸ hkept (Or.inl rfl) rfl rfl rfl

/-- Where nothing is to be done, the machine stays. -/
theorem Rests.of_ready (hready : Ready gmPresent pp) (hmsg : pp.rcvdMsg = false)
    (h : Rests gmPresent masterStepsRemoved port pp r) : r = pp := by
  refine h.of_none ?_
  rw [nextState, if_pos hready.current.operational, hready.current.state]
  have hfresh := hready.timedOut
  rw [Port.timedOut] at hfresh
  simp only [hready.updtInfo, hmsg, hfresh, Bool.and_false, Bool.false_and, Bool.false_eq_true,
    if_false, false_and, and_false]

/-- The port after a message has been taken. -/
theorem Rests.of_ready_message (hready : Ready gmPresent pp) (hptr : pp.rcvdAnnouncePtr = some m)
    (hmsg : pp.rcvdMsg = true) (h : Rests gmPresent masterStepsRemoved port pp r) :
    Ready gmPresent r ∧ (r.portPriority, r.infoIs) =
      if extractAnnounce m port < pp.portPriority then (extractAnnounce m port, .received)
      else (pp.portPriority, pp.infoIs) := by
  obtain ⟨m', s, pp₁, pp₂, pp', hm, hset₁, hset₂, hset₃, hrest, hcur, hupdt, hmsg', hinformation⟩ :=
    h.turns_of_message hready.current hready.updtInfo hmsg
  obtain rfl : m' = m := Option.some_inj.mp (hm.symm.trans hptr)
  have hfresh := setState_fresh (setState_fresh (setState_fresh hready.timedOut hset₁) hset₂) hset₃
  have hready' : Ready gmPresent pp' := ⟨hcur, hupdt, hfresh⟩
  obtain rfl := hrest.of_ready hready' hmsg'
  -- the order of the vectors is that of their values
  exact ⟨hready', hinformation.trans (if_congr PriorityVector.lt_iff.symm rfl rfl)⟩

/-- A message comes in on port `p`, and the machine runs. -/
def announceStep (bigEndian : Bool) (p : Fin n) (t : Gptpm n) (m : Mem) : Option (Gptpm n) :=
  (processRxAnnounce bigEndian t p m).bind fun t => portAnnounceInformation t p

/-- Whether a message is accepted depends on the clock of the system only. -/
theorem qualified_congr (h : t'.systemPriority = t.systemPriority) :
    qualified bigEndian t' p m ↔ qualified bigEndian t p m := by
  rw [qualified, qualified]
  have hanswer : (qualifyAnnounce bigEndian t' p m).map Prod.snd =
      (qualifyAnnounce bigEndian t p m).map Prod.snd := by
    simp only [qualifyAnnounce, h]
    split_ifs <;> rfl
  rw [hanswer]

/-- What a message that is accepted leaves in the instance. -/
theorem processRxAnnounce_of_qualified (hop : (t.ports p).operational)
    (hqualified : qualified bigEndian t p m) :
    ∃ u, processRxAnnounce bigEndian t p m = some u ∧ u.systemPriority = t.systemPriority ∧
      u.gmPresent = t.gmPresent ∧
      u.ports p = (t.ports p).withReceived (some m) true := by
  obtain ⟨⟨w, answer⟩, hw, -⟩ := Option.map_eq_some_iff.mp hqualified
  have hanswer := @qualifyAnnounce_answer n t p m bigEndian (some m)
  rw [hw, Option.map_some] at hanswer
  obtain ⟨⟨v, answer'⟩, hv, -⟩ := Option.map_eq_some_iff.mp hanswer
  have hop' : ((t.setPort p { t.ports p with rcvdAnnouncePtr := some m }).ports p).operational := by
    rw [Gptpm.setPort_ports_self]
    exact hop
  obtain ⟨u, hu⟩ : ∃ u, processRxAnnounce bigEndian t p m = some u := by
    rw [processRxAnnounce, portAnnounceReceive, if_pos hop', hv]
    exact ⟨_, rfl⟩
  obtain ⟨rcvdMsg, pathTrace, pathTraceLength, heq⟩ := processRxAnnounce_eq_with hu
  have hmsg := (processRxAnnounce_rcvdMsg hop hu).mpr hqualified
  refine ⟨u, hu, by rw [heq]; rfl, by rw [heq]; rfl, ?_⟩
  have hport : u.ports p = (t.ports p).withReceived (some m) rcvdMsg := by
    rw [heq]
    exact Gptpm.setPort_ports_self
  have hrcvd : rcvdMsg = true := by
    rw [hport] at hmsg
    exact hmsg
  rw [hport, hrcvd]

/-- **One message**: the machine is ready again, with the smaller of the two vectors. -/
theorem announceStep_ready (hready : Ready t.gmPresent (t.ports p))
    (hqualified : qualified bigEndian t p m) :
    ∃ t', announceStep bigEndian p t m = some t' ∧ t'.systemPriority = t.systemPriority ∧
      Ready t'.gmPresent (t'.ports p) ∧
      ((t'.ports p).portPriority, (t'.ports p).infoIs) =
        if extractAnnounce m p < (t.ports p).portPriority then (extractAnnounce m p, .received)
        else ((t.ports p).portPriority, (t.ports p).infoIs) := by
  obtain ⟨u, hu, hsystem, hpresent, hport⟩ :=
    processRxAnnounce_of_qualified hready.current.operational hqualified
  have hready' : Ready u.gmPresent (u.ports p) := by
    rw [hpresent, hport]
    exact ⟨⟨hready.current.operational, hready.current.state⟩, hready.updtInfo, hready.timedOut⟩
  have hptr : (u.ports p).rcvdAnnouncePtr = some m := by rw [hport]; rfl
  have hmsg : (u.ports p).rcvdMsg = true := by rw [hport]; rfl
  have hread : Readable (u.ports p) := by
    intro _
    rw [hptr]
    rfl
  obtain ⟨t', ht'⟩ := Option.isSome_iff_exists.mp (portAnnounceInformation_isSome hread)
  obtain ⟨r, hrests, rfl⟩ := portAnnounceInformation_rests ht'
  obtain ⟨hready'', hinformation⟩ := hrests.of_ready_message hready' hptr hmsg
  refine ⟨u.setPort p r, ?_, hsystem, ?_, ?_⟩
  · rw [announceStep, hu]
    exact ht'
  · rw [Gptpm.setPort_ports_self]
    exact hready''
  · rw [Gptpm.setPort_ports_self, hinformation, hport]
    rfl

/-! ### A sequence of messages -/

/-- **A sequence of messages**: each of them is accepted when it comes in, and the port is left
with the least vector. -/
theorem run_announceStep (hready : Ready t.gmPresent (t.ports p))
    (hqualified : ∀ m ∈ ms, qualified bigEndian t p m) :
    ∃ t', Runs.run (announceStep bigEndian p) t ms = some t' ∧
      Ready t'.gmPresent (t'.ports p) ∧
      Runs.EachStep (announceStep bigEndian p) (fun u m => qualified bigEndian u p m) t ms ∧
      (t'.ports p).portPriority =
        (ms.map fun m => extractAnnounce m p).foldl min (t.ports p).portPriority ∧
      ((t'.ports p).infoIs = if ∃ m ∈ ms, extractAnnounce m p < (t.ports p).portPriority
        then .received else (t.ports p).infoIs) := by
  induction ms generalizing t with
  | nil => exact ⟨t, rfl, hready, trivial, rfl, (if_neg (by simp)).symm⟩
  | cons a ms ih =>
    obtain ⟨u, hu, hsystem, hready', hinformation⟩ :=
      announceStep_ready hready (hqualified a List.mem_cons_self)
    have hlater : ∀ m ∈ ms, qualified bigEndian u p m := by
      intro m hm
      exact (qualified_congr hsystem).mpr (hqualified m (List.mem_cons_of_mem a hm))
    obtain ⟨t', hrun, hready'', heach, hvector, hinfo⟩ := ih hready' hlater
    refine ⟨t', Runs.run_cons_eq_some.mpr ⟨u, hu, hrun⟩, hready'',
      (Runs.eachStep_cons hu).mpr ⟨hqualified a List.mem_cons_self, heach⟩, ?_⟩
    by_cases hbetter : extractAnnounce a p < (t.ports p).portPriority
    · rw [if_pos hbetter] at hinformation
      obtain ⟨hvector', hinfo'⟩ := Prod.mk.inj hinformation
      rw [hvector, hinfo, hvector', hinfo', ite_self, if_pos ⟨a, List.mem_cons_self, hbetter⟩,
        List.map_cons, List.foldl_cons, min_eq_right hbetter.le]
      exact ⟨rfl, rfl⟩
    · rw [if_neg hbetter] at hinformation
      obtain ⟨hvector', hinfo'⟩ := Prod.mk.inj hinformation
      have hex : (∃ m ∈ a :: ms, extractAnnounce m p < (t.ports p).portPriority) ↔
          ∃ m ∈ ms, extractAnnounce m p < (t.ports p).portPriority := by
        rw [List.exists_mem_cons_iff]
        exact or_iff_right hbetter
      rw [hvector, hinfo, hvector', hinfo', if_congr hex rfl rfl, List.map_cons, List.foldl_cons,
        min_eq_left (not_lt.mp hbetter)]
      exact ⟨rfl, rfl⟩

/-- What a sequence of messages leaves in port `p`. -/
structure HoldsLeast (t : Gptpm n) (p : Fin n) (ms : List Mem) (t' : Gptpm n) : Prop where
  offered : (t'.ports p).portPriority = (t.ports p).portPriority ∨
    ∃ m ∈ ms, (t'.ports p).portPriority = extractAnnounce m p
  least_held : (t'.ports p).portPriority.octets ≤ (t.ports p).portPriority.octets
  least : ∀ m ∈ ms, (t'.ports p).portPriority.octets ≤ (extractAnnounce m p).octets
  infoIs : (t'.ports p).infoIs =
    if ∃ m ∈ ms, extractAnnounce m p < (t.ports p).portPriority then .received
    else (t.ports p).infoIs

/-- **The port holds the best vector announced**, whatever the order of the messages. -/
theorem announces_least (bigEndian : Bool) (t : Gptpm n) (p : Fin n) (ms : List Mem)
    (hready : Ready t.gmPresent (t.ports p)) (hqualified : ∀ m ∈ ms, qualified bigEndian t p m) :
    ∃ t', Runs.run (announceStep bigEndian p) t ms = some t' ∧
      Runs.EachStep (announceStep bigEndian p) (fun u m => qualified bigEndian u p m) t ms ∧
      HoldsLeast t p ms t' ∧
      ∀ ms', ms'.Perm ms → ∃ t'', Runs.run (announceStep bigEndian p) t ms' = some t'' ∧
        (t''.ports p).portPriority = (t'.ports p).portPriority := by
  obtain ⟨t', hrun, -, heach, hvector, hinfo⟩ := run_announceStep hready hqualified
  obtain ⟨hmem, hle⟩ := isLeast_foldl_min (t.ports p).portPriority
    (ms.map fun m => extractAnnounce m p)
  rw [← hvector] at hmem hle
  refine ⟨t', hrun, heach, ⟨?_, ?_, ?_, hinfo⟩, ?_⟩
  · rcases List.mem_cons.mp hmem with heq | hmem
    · exact Or.inl heq
    · obtain ⟨m, hm, heq⟩ := List.mem_map.mp hmem
      exact Or.inr ⟨m, hm, heq.symm⟩
  · exact PriorityVector.octets_le_iff.mpr (hle List.mem_cons_self)
  · intro m hm
    exact PriorityVector.octets_le_iff.mpr
      (hle (List.mem_cons_of_mem _ (List.mem_map.mpr ⟨m, hm, rfl⟩)))
  · intro ms' hperm
    have hqualified' : ∀ m ∈ ms', qualified bigEndian t p m := fun m hm =>
      hqualified m (hperm.mem_iff.mp hm)
    obtain ⟨t'', hrun', -, -, hvector', -⟩ := run_announceStep hready hqualified'
    refine ⟨t'', hrun', ?_⟩
    rw [hvector, hvector']
    exact (hperm.map _).foldl_eq _

/-- A port that is up, right after `gptp_sw_init`, as if it had come to CURRENT. -/
def readyGptpm : Gptpm 1 :=
  freshGptpm.setPort ⟨0, Nat.one_pos⟩ { freshGptpm.ports ⟨0, Nat.one_pos⟩ with
    portEnabled := true
    pttPortEnabled := true
    asCapable := true
    portPriority := .memset 0xFF
    portAnnounceInformationState := .current }

/-- Two messages of different grandmasters. -/
theorem announces_least_two :
    ∃ t', Runs.run (announceStep true ⟨0, Nat.one_pos⟩) readyGptpm goodThenWorse = some t' ∧
      Runs.EachStep (announceStep true ⟨0, Nat.one_pos⟩)
        (fun u m => qualified true u ⟨0, Nat.one_pos⟩ m) readyGptpm goodThenWorse ∧
      HoldsLeast readyGptpm ⟨0, Nat.one_pos⟩ goodThenWorse t' ∧
      ∀ ms', ms'.Perm goodThenWorse →
        ∃ t'', Runs.run (announceStep true ⟨0, Nat.one_pos⟩) readyGptpm ms' = some t'' ∧
          (t''.ports ⟨0, Nat.one_pos⟩).portPriority =
            (t'.ports ⟨0, Nat.one_pos⟩).portPriority := by
  refine announces_least true readyGptpm ⟨0, Nat.one_pos⟩ goodThenWorse ⟨⟨rfl, rfl⟩, rfl, ?_⟩ ?_
  · decide +kernel
  · intro m hm
    rcases List.mem_cons.mp hm with rfl | hm
    · show (_ : Option Bool) = some true
      decide +kernel
    · rw [List.mem_singleton.mp hm]
      show (_ : Option Bool) = some true
      decide +kernel

end Gptp
