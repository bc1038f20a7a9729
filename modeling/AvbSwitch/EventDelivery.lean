/-
Which machines a participant's events come to.

`mad_event` passes an event to the machines from `next_to_process` on that `mad_machine_active`
says are active.  What is meant is an event for every machine that is used and not at rest, in
a circle that begins at `next_to_process`:

* `MadMachine.atWork` — used and not at rest, a declaration in `VO` or a registration in `MT`;
* `circle` — the slots from an index on, and then the ones before it;
* `madAttrEvent_delivered` — what a delivery does to the other machines of its port: a Leave
  indication takes the first declaration of its stream from `VP` to `VO`;
* `madEvent_delivers_iff` — the two deliveries are the same exactly if no registration from
  `next_to_process` on is in `MT` or `L2`, and no machine before it is at work when the circle
  comes to it.
-/
import AvbSwitch.LeavePropagation
import AvbSwitch.MsrpService
import AvbSwitch.Turns

namespace Msrp

open Turns

variable {n : ℕ} {env : Env n} {t t' u v : State n} {p : Fin n} {ref x : MachineRef} {m m' : MadMachine}
  {event : MrpEvent} {r : ℤ} {i j k : Fin 24} {is D : List (Fin 24)}

/-! ### The deliveries -/

/-- A declaration in `VO` or a registration in `MT`. -/
def MadMachine.atRest (m : MadMachine) : Bool :=
  match m.attrDir with
  | .reg => m.regState = .MT
  | .dec => m.appState = .VO

/-- Used and not at rest. -/
def MadMachine.atWork (m : MadMachine) : Bool := m.used && !m.atRest

/-- Deliver the event to one machine, unless its PDU fills up. -/
def deliverTo (env : Env n) (p : Fin n) (event : MrpEvent) (t : State n) (i : Fin 24) :
    Option (State n) :=
  (madAttrEvent env t p (.slot i) event).bind fun r => if r.2 < 0 then none else some r.1

/-- The machine of a slot is active. -/
def activeAt (active : MadMachine → Bool) (p : Fin n) (t : State n) (i : Fin 24) : Bool :=
  active (t.machine p (.slot i))

/-- The slots that get the event when each of the list has its turn, and the state after it. -/
def deliveries (env : Env n) (p : Fin n) (event : MrpEvent) (active : MadMachine → Bool) :
    List (Fin 24) → State n → Option (List (Fin 24) × State n) :=
  visit (activeAt active p) (deliverTo env p event)

/-- The slots before an index. -/
def earlierSlots (next : ℕ) : List (Fin 24) := (List.finRange 24).filter fun i => i < next

/-- The slots from an index on, and then the ones before it. -/
def circle (next : ℕ) : List (Fin 24) :=
  (List.finRange 24).filter (fun i : Fin 24 => next ≤ i) ++ earlierSlots next

theorem mem_nextMachines : i ∈ nextMachines t p ↔ (t.ports p).nextToProcess ≤ i := by
  rw [nextMachines, List.mem_filter, decide_eq_true_eq]
  exact and_iff_right (List.mem_finRange i)

theorem mem_earlierSlots {next : ℕ} : i ∈ earlierSlots next ↔ i < next := by
  rw [earlierSlots, List.mem_filter, decide_eq_true_eq]
  exact and_iff_right (List.mem_finRange i)

/-- Every slot has its turn. -/
theorem mem_circle (next : ℕ) (i : Fin 24) : i ∈ circle next := by
  rw [circle, List.mem_append, mem_earlierSlots, List.mem_filter, decide_eq_true_eq]
  exact (le_or_gt next i).imp (fun h => ⟨List.mem_finRange i, h⟩) id

/-- It has one turn. -/
theorem circle_nodup (next : ℕ) : (circle next).Nodup := by
  rw [circle, earlierSlots]
  refine List.nodup_append'.mpr
    ⟨(List.nodup_finRange 24).filter _, (List.nodup_finRange 24).filter _, ?_⟩
  intro i hi hi'
  rw [List.mem_filter, decide_eq_true_eq] at hi hi'
  exact absurd hi'.2 (not_lt.mpr hi.2)

/-- What `mad_event` does, if no PDU fills up. -/
theorem machineLoop_of_deliveries (h : deliveries env p event madMachineActive is t = some (D, t')) :
    machineLoop env p (fun _ => true) event is t = some t' := by
  induction is generalizing t D with
  | nil =>
    obtain ⟨-, rfl⟩ := visit_nil.mp h
    rfl
  | cons i is ih =>
    rw [machineLoop, Bool.and_true]
    cases hi : activeAt madMachineActive p t i with
    | true =>
      obtain ⟨u, D', hu, hrest, -⟩ := (visit_cons_of_active hi).mp h
      obtain ⟨⟨w, r⟩, hw, hr⟩ := Option.bind_eq_some_iff.mp hu
      rw [activeAt] at hi
      rw [if_pos hi, hw]
      dsimp only at hr ⊢
      by_cases hneg : r < 0
      · rw [if_pos hneg] at hr
        cases hr
      · rw [if_neg hneg] at hr ⊢
        rw [Option.some_inj.mp hr]
        exact ih hrest
    | false =>
      rw [deliveries, visit_cons_of_not hi] at h
      rw [activeAt] at hi
      rw [if_neg (by rw [hi]; exact Bool.false_ne_true)]
      exact ih h

/-! ### What a delivery does to the other machines of its port -/

/-- The state of a declaration after `MRP_EVENT_LV`. -/
def leftState (s : ApplicantState) : ApplicantState :=
  if (applicantEntry s .lv).state = .invalid then s else (applicantEntry s .lv).state

theorem leftState_eq_VO_iff : ∀ s, leftState s = .VO ↔ s = .VO ∨ s = .VP := by decide

theorem leftState_ne_VP : ∀ s, leftState s ≠ .VP := by decide

theorem applicantTrans_lv (pointToPoint : Bool) (m : MadMachine) :
    applicantTrans pointToPoint m .lv =
      if (applicantEntry m.appState .lv).state = .invalid then none
      else some (applicantEntry m.appState .lv) := by
  rw [applicantTrans]
  refine if_congr Iff.rfl rfl ?_
  rw [if_neg fun h => MrpEvent.noConfusion h.2.1, if_neg fun h => MrpEvent.noConfusion h.2.1,
    if_neg fun h => MrpEvent.noConfusion h.2.1]

/-- A declaration that is left. -/
theorem applicant_lv (h : applicant env t p ref .lv = some (t', r)) :
    t'.machine p ref = (t.machine p ref).withAppState (leftState (t.machine p ref).appState) := by
  have hsent : ∀ registered, sentEvent registered
      (applicantEntry (t.machine p ref).appState .lv).action = none := fun registered =>
    applicantEntry_silent _ .lv registered (by decide)
  rw [applicant, applicantTrans_lv] at h
  rw [leftState]
  by_cases hinv : (applicantEntry (t.machine p ref).appState .lv).state = .invalid
  · rw [if_pos hinv] at h ⊢
    rw [← (Prod.mk.inj (Option.some_inj.mp h)).1]
    rfl
  · rw [if_neg hinv] at h ⊢
    dsimp only at h
    rw [hsent] at h
    split at h
    · rw [← (Prod.mk.inj (Option.some_inj.mp h)).1, State.setAppState, State.setMachine_machine_self]
    · rw [← (Prod.mk.inj (Option.some_inj.mp h)).1, State.setAppState, State.setMachine_machine_self]
      split
      · rw [mrpReqTxOpportunity]
        split
        · rfl
        · rw [State.machine, State.setPort_ports_self]
          rfl
      · rfl

/-- The machine `x` after a leave that has found the slot `found` on its port. -/
def afterLeave (found : Option (Fin 24)) (x : MachineRef) (m : MadMachine) : MadMachine :=
  if found.map MachineRef.slot = some x then m.withAppState (leftState m.appState) else m

theorem leavePort_machine {id : UInt32 × UInt32} (h : leavePort env id t p = some t') :
    t'.machine p x = afterLeave (findMatchingDecAttributeByStreamInfo t id p) x (t.machine p x) := by
  rw [leavePort] at h
  cases hfind : findMatchingDecAttributeByStreamInfo t id p with
  | none =>
    rw [hfind] at h
    rw [← Option.some_inj.mp h]
    rfl
  | some k =>
    rw [hfind] at h
    dsimp only at h
    obtain ⟨⟨u, r⟩, hu, rfl⟩ := Option.map_eq_some_iff.mp h
    rw [afterLeave, Option.map_some]
    by_cases hx : x = .slot k
    · rw [hx, if_pos rfl]
      exact applicant_lv (t := t.record (.madAttrEvent p (.slot k) .lv)) hu
    · rw [if_neg fun heq => hx (Option.some_inj.mp heq).symm]
      obtain ⟨s, hs⟩ := (declarationEvent_appOnly hu).machine
      rw [hs, if_neg fun heq => hx heq.2]
      rfl

theorem leavePorts_machine {id : UInt32 × UInt32} {qs : List (Fin n)} (hp : p ∉ qs)
    (h : Runs.run (leavePort env id) t qs = some t') : t'.machine p x = t.machine p x := by
  obtain ⟨u, hu, -, -, -, hsame⟩ := leavePorts_spec env id qs t
  obtain rfl := Option.some_inj.mp (hu.symm.trans h)
  refine hsame p x fun hmem => hp ?_
  obtain ⟨q, hq, hrecord⟩ := List.mem_filterMap.mp hmem
  obtain ⟨k, -, hk⟩ := Option.map_eq_some_iff.mp hrecord
  obtain ⟨rfl, -⟩ := Record.madAttrEvent.inj hk
  exact hq

/-- A leave comes to the port of the machine itself first, and does not come back. -/
theorem msrpMadLeavePropagation_machine {info : Fin 10} (hstream : m.attributeType.IsStream)
    (hinfo : m.attributeInfo = some info) (h : msrpMadLeavePropagation env t p m = some t') :
    t'.machine p x = afterLeave
      (findMatchingDecAttributeByStreamInfo t (t.streamInfoVars info).streamID p) x
      (t.machine p x) := by
  rw [msrpMadLeavePropagation, if_neg hstream, hinfo] at h
  obtain ⟨u, hu, hrest⟩ := Runs.run_cons_eq_some.mp h
  rw [leavePorts_machine (fun hmem => mem_otherPorts.mp hmem rfl) hrest, leavePort_machine hu]

theorem msrpMapJoinPropagate_streams {new : Bool}
    (h : msrpMapJoinPropagate env t p m new = some t') : t'.streamInfoVars = t.streamInfoVars := by
  by_cases hd : m.attributeType = .domainVector
  · rw [msrpMapJoinPropagate, if_pos hd] at h
    rw [Option.some_inj.mp h]
  · cases hi : m.attributeInfo with
    | none =>
      rw [msrpMapJoinPropagate, if_neg hd, hi] at h
      rw [Option.some_inj.mp h]
    | some i => exact (msrpMapJoinPropagate_joined hd hi h).streams

theorem countRegFailure_machine : (t.countRegFailure p).machine = t.machine := by
  funext q x
  by_cases hq : q = p
  · rw [hq, State.machine, State.countRegFailure, State.setPort_ports_self]
    rfl
  · rw [State.machine, State.countRegFailure, State.setPort_ports_of_ne hq]
    rfl

/-- The event takes the registrar of slot `j` to a Leave indication, which finds the declaration
in slot `k`. -/
def Leaves (t : State n) (p : Fin n) (event : MrpEvent) (j k : Fin 24) : Prop :=
  (t.machine p (.slot j)).attrDir = .reg ∧ (t.machine p (.slot j)).attributeType.IsStream ∧
    (registrarEntry (t.machine p (.slot j)).regState event).state ≠ .invalid ∧
    IsLeave (registrarEntry (t.machine p (.slot j)).regState event).action ∧
    ∃ i, (t.machine p (.slot j)).attributeInfo = some i ∧
      findMatchingDecAttributeByStreamInfo t (t.streamInfoVars i).streamID p = some k

/-- What an indication of the machine in slot `j` does to the machines of its port. -/
structure OwnPort (action : Action) (j : Fin 24) (p : Fin n) (t t' : State n) : Prop where
  streams : t'.streamInfoVars = t.streamInfoVars
  left : ∀ i k, IsLeave action → (t.machine p (.slot j)).attributeType.IsStream →
    (t.machine p (.slot j)).attributeInfo = some i →
    findMatchingDecAttributeByStreamInfo t (t.streamInfoVars i).streamID p = some k →
    t'.machine p (.slot k) =
      (t.machine p (.slot k)).withAppState (leftState (t.machine p (.slot k)).appState)
  kept : ∀ x, ¬ (IsLeave action ∧ (t.machine p (.slot j)).attributeType.IsStream ∧
    ∃ i k, (t.machine p (.slot j)).attributeInfo = some i ∧
      findMatchingDecAttributeByStreamInfo t (t.streamInfoVars i).streamID p = some k ∧
      x = .slot k) → t'.machine p x = t.machine p x

theorem registrarIndication_ownPort {action : Action}
    (h : registrarIndication env t p (.slot j) action = some t') : OwnPort action j p t t' := by
  rcases registrarIndication_cases h with ⟨hj, u, s, hind, hcase⟩ | ⟨hl, u, hind, hprop⟩ | ⟨-, hl, rfl⟩
  · -- a join comes to the other ports only
    have hres := msrpMadJoinInd_reservationsOnly hind
    have hsame : t'.streamInfoVars = t.streamInfoVars ∧ ∀ x, t'.machine p x = t.machine p x := by
      rcases hcase with ⟨-, rfl⟩ | ⟨-, new, hprop⟩
      · refine ⟨hres.streams, fun x => ?_⟩
        rw [countRegFailure_machine, hres.machine]
      · refine ⟨(msrpMapJoinPropagate_streams hprop).trans hres.streams, fun x => ?_⟩
        rw [(msrpMapJoinPropagate_elsewhere hprop).2, hres.machine]
    exact ⟨hsame.1, fun i k hl => absurd hl hj.not_isLeave, fun x _ => hsame.2 x⟩
  · have hres := msrpMadLeaveIndication_reservationsOnly hind
    have hsame := (msrpMadLeavePropagation_sameCore hprop).1
    have hmachine : ∀ {i}, (t.machine p (.slot j)).attributeType.IsStream →
        (t.machine p (.slot j)).attributeInfo = some i → ∀ x, t'.machine p x = afterLeave
          (findMatchingDecAttributeByStreamInfo t (t.streamInfoVars i).streamID p) x
          (t.machine p x) := by
      intro i hstream hinfo x
      rw [msrpMadLeavePropagation_machine hstream hinfo hprop, hres.streams, hres.machine,
        findMatchingDecAttributeByStreamInfo, hres.machine, ← findMatchingDecAttributeByStreamInfo]
    refine ⟨hsame.streams.trans hres.streams, fun i k _ hstream hinfo hk => ?_, fun x hx => ?_⟩
    · rw [hmachine hstream hinfo, hk, afterLeave]
      exact if_pos rfl
    · by_cases hstream : (t.machine p (.slot j)).attributeType.IsStream
      · cases hinfo : (t.machine p (.slot j)).attributeInfo with
        | none =>
          rw [msrpMadLeavePropagation, if_neg hstream, hinfo] at hprop
          rw [← Option.some_inj.mp hprop, hres.machine]
        | some i =>
          rw [hmachine hstream hinfo, afterLeave]
          refine if_neg fun heq => hx ⟨hl, hstream, i, ?_⟩
          obtain ⟨k, hk, hkx⟩ := Option.map_eq_some_iff.mp heq
          exact ⟨k, hinfo, hk, hkx.symm⟩
      · rw [msrpMadLeavePropagation, if_pos (not_not.mp hstream)] at hprop
        rw [← Option.some_inj.mp hprop, hres.machine]
  · exact ⟨rfl, fun i k h => absurd h hl, fun _ _ => rfl⟩

/-- What a delivery to slot `j` does to the machines of its port. -/
structure EventEffect (p : Fin n) (event : MrpEvent) (j : Fin 24) (t t' : State n) : Prop where
  streams : t'.streamInfoVars = t.streamInfoVars
  attrDir : (t'.machine p (.slot j)).attrDir = (t.machine p (.slot j)).attrDir
  streamID : (t'.machine p (.slot j)).streamID = (t.machine p (.slot j)).streamID
  left : ∀ k, k ≠ j → Leaves t p event j k → t'.machine p (.slot k) =
    (t.machine p (.slot k)).withAppState (leftState (t.machine p (.slot k)).appState)
  kept : ∀ k, k ≠ j → ¬ Leaves t p event j k → t'.machine p (.slot k) = t.machine p (.slot k)

/-- The applicant changes its own state only. -/
theorem EventEffect.applicant (h : EventEffect p event j t u) (happ : AppOnly p (.slot j) u t') :
    EventEffect p event j t t' := by
  have hother : ∀ k, k ≠ j → t'.machine p (.slot k) = u.machine p (.slot k) := by
    intro k hk
    obtain ⟨s, hs⟩ := happ.machine
    rw [hs, if_neg fun heq => hk (MachineRef.slot.inj heq.2)]
  exact ⟨happ.streams.trans h.streams, (happ.sameCore.attrDir p _).trans h.attrDir,
    (happ.sameCore.streamID p _).trans h.streamID,
    fun k hk hl => (hother k hk).trans (h.left k hk hl),
    fun k hk hl => (hother k hk).trans (h.kept k hk hl)⟩

theorem registrar_delivered (hreg : (t.machine p (.slot j)).attrDir = .reg)
    (h : registrar env t p (.slot j) event = some t') : EventEffect p event j t t' := by
  rcases registrar_cases h with ⟨hinv, rfl⟩ | ⟨hinv, w, hw, rfl⟩
  · exact ⟨rfl, rfl, rfl, fun k _ hl => absurd hinv hl.2.2.1, fun k _ _ => rfl⟩
  · have hown := registrarIndication_ownPort hw
    set action := (registrarEntry (t.machine p (.slot j)).regState event).action
    -- the registrar changes its own state only
    have hset : ∀ s k, ((registrarTimer w p action).setRegState p (.slot j) s).machine p (.slot k) =
        if k = j then (w.machine p (.slot j)).withRegState s else w.machine p (.slot k) := by
      intro s k
      rw [State.setRegState, State.setMachine_machine, registrarTimer_machine]
      exact if_congr ⟨fun h => MachineRef.slot.inj h.2, fun h => ⟨rfl, by rw [h]⟩⟩ rfl rfl
    -- a leave finds declarations, and the machine is none
    have hself : w.machine p (.slot j) = t.machine p (.slot j) := by
      refine hown.kept _ ?_
      rintro ⟨-, -, i, k, -, hfind, hx⟩
      have hfound := List.find?_some hfind
      have hdec := (of_decide_eq_true hfound).2
      rw [← hx, hreg] at hdec
      exact AttributeDirection.noConfusion hdec
    refine ⟨(registrarTimer_tables w p action).1.trans hown.streams, ?_, ?_, fun k hk hl => ?_,
      fun k hk hl => ?_⟩
    · rw [hset, if_pos rfl, hself]
      rfl
    · rw [hset, if_pos rfl, hself]
      rfl
    · obtain ⟨-, hstream, -, hleave, i, hinfo, hfind⟩ := hl
      rw [hset, if_neg hk, hown.left i k hleave hstream hinfo hfind]
    · rw [hset, if_neg hk]
      refine hown.kept _ ?_
      rintro ⟨hleave, hstream, i, k', hinfo, hfind, hx⟩
      rw [← MachineRef.slot.inj hx] at hfind
      exact hl ⟨hreg, hstream, hinv, hleave, i, hinfo, hfind⟩

theorem madAttrEvent_delivered (h : madAttrEvent env t p (.slot j) event = some (t', r)) :
    EventEffect p event j t t' := by
  by_cases hdir : (t.machine p (.slot j)).attrDir = .dec
  · -- a declaration raises no indication
    rw [madAttrEvent_dec hdir] at h
    have hnot : ∀ k, ¬ Leaves t p event j k := by
      rintro k ⟨hreg, -⟩
      exact AttributeDirection.noConfusion (hdir.symm.trans hreg)
    have hsame : EventEffect p event j t (t.record (.madAttrEvent p (.slot j) event)) :=
      ⟨rfl, rfl, rfl, fun k _ hl => absurd hl (hnot k), fun k _ _ => rfl⟩
    exact hsame.applicant (declarationEvent_appOnly h)
  · have hreg : (t.machine p (.slot j)).attrDir = .reg := by
      cases hd : (t.machine p (.slot j)).attrDir with
      | reg => rfl
      | dec => exact absurd hd hdir
    obtain ⟨u, hu, happ⟩ := madAttrEvent_reg hreg h
    have hregistrar : EventEffect p event j (t.record (.madAttrEvent p (.slot j) event)) u :=
      registrar_delivered hreg hu
    exact EventEffect.applicant ⟨hregistrar.streams, hregistrar.attrDir, hregistrar.streamID,
      hregistrar.left, hregistrar.kept⟩ (applicant_appOnly happ)

/-! ### The machines that have not had their turn -/

theorem EventEffect.find (h : EventEffect p event j t u) (id : UInt32 × UInt32) :
    findMatchingDecAttributeByStreamInfo u id p = findMatchingDecAttributeByStreamInfo t id p := by
  have hsame : ∀ k, (u.machine p (.slot k)).streamID = (t.machine p (.slot k)).streamID ∧
      (u.machine p (.slot k)).attrDir = (t.machine p (.slot k)).attrDir := by
    intro k
    by_cases hk : k = j
    · rw [hk]
      exact ⟨h.streamID, h.attrDir⟩
    · by_cases hl : Leaves t p event j k
      · rw [h.left k hk hl]
        exact ⟨rfl, rfl⟩
      · rw [h.kept k hk hl]
        exact ⟨rfl, rfl⟩
  rw [findMatchingDecAttributeByStreamInfo, findMatchingDecAttributeByStreamInfo]
  congr 1
  funext k
  rw [(hsame k).1, (hsame k).2]

/-- A delivery changes no more than the applicant state of another machine. -/
theorem EventEffect.core (h : EventEffect p event j t u) (hk : k ≠ j) :
    (u.machine p (.slot k)).core = (t.machine p (.slot k)).core := by
  by_cases hl : Leaves t p event j k
  · rw [h.left k hk hl]
    rfl
  · rw [h.kept k hk hl]

/-- Whether another machine's registrar comes to a Leave indication is not changed. -/
theorem EventEffect.leaves (h : EventEffect p event j t u) (hi : i ≠ j) :
    Leaves u p event i k ↔ Leaves t p event i k := by
  rw [Leaves, Leaves, MadMachine.eq_withAppState (h.core hi), h.streams]
  simp only [h.find]
  rfl

/-- The two predicates agree on a machine. -/
def MadMachine.Agree (m : MadMachine) : Prop :=
  m.attrDir = .reg → m.used = true → m.regState ≠ .MT ∧ m.regState ≠ .L2

instance (m : MadMachine) : Decidable m.Agree := inferInstanceAs (Decidable (_ → _ → _ ∧ _))

theorem agree_iff : madMachineActive m = m.atWork ↔ m.Agree := by
  rw [madMachineActive, MadMachine.atWork, MadMachine.atRest, MadMachine.Agree]
  cases m.attrDir with
  | reg =>
    dsimp only
    cases m.used with
    | true => cases m.regState <;> decide
    | false => simp
  | dec =>
    refine iff_of_true ?_ fun h => AttributeDirection.noConfusion h
    cases m.used <;> simp

theorem agree_of_core (h : m'.core = m.core) : m'.Agree ↔ m.Agree := by
  rw [MadMachine.eq_withAppState h]
  rfl

/-- Whether a registration is active does not depend on its applicant state. -/
theorem madMachineActive_of_core (h : m'.core = m.core) (hreg : m.attrDir = .reg) :
    madMachineActive m' = madMachineActive m := by
  rw [MadMachine.eq_withAppState h, madMachineActive, madMachineActive]
  have hreg' : (m.withAppState m'.appState).attrDir = .reg := hreg
  rw [hreg, hreg']
  rfl

theorem eventEffect_of_deliverTo (h : deliverTo env p event t i = some u) :
    EventEffect p event i t u := by
  obtain ⟨⟨w, r⟩, hw, hr⟩ := Option.bind_eq_some_iff.mp h
  dsimp only at hr
  split at hr
  · cases hr
  · rw [← Option.some_inj.mp hr]
    exact madAttrEvent_delivered hw

theorem deliver_stable : Stable (activeAt madMachineActive p) (activeAt MadMachine.atWork p)
    (deliverTo env p event) := by
  intro t u i j hu hj
  rw [activeAt, activeAt, activeAt, activeAt, agree_iff, agree_iff]
  exact agree_of_core ((eventEffect_of_deliverTo hu).core hj)

/-- A machine that has had no turn: what it was is known but for its applicant state, and this is
`VO` if it was, or if it was `VP` and one of the others has left it. -/
theorem deliveries_others (hk : k ∉ is) (hnodup : is.Nodup)
    (h : deliveries env p event madMachineActive is t = some (D, t')) :
    (t'.machine p (.slot k)).core = (t.machine p (.slot k)).core ∧
      ((t'.machine p (.slot k)).appState = .VO ↔ (t.machine p (.slot k)).appState = .VO ∨
        (t.machine p (.slot k)).appState = .VP ∧ ∃ j ∈ is,
          madMachineActive (t.machine p (.slot j)) = true ∧ Leaves t p event j k) := by
  induction is generalizing t D with
  | nil =>
    obtain ⟨-, rfl⟩ := visit_nil.mp h
    refine ⟨rfl, (or_iff_left ?_).symm⟩
    rintro ⟨-, j, hj, -⟩
    exact List.not_mem_nil hj
  | cons j is ih =>
    rw [List.mem_cons, not_or] at hk
    rw [List.nodup_cons] at hnodup
    cases hj : activeAt madMachineActive p t j with
    | true =>
      obtain ⟨u, D', hu, hrest, -⟩ := (visit_cons_of_active hj).mp h
      have hd := eventEffect_of_deliverTo hu
      obtain ⟨hcore, hstate⟩ := ih hk.2 hnodup.2 hrest
      refine ⟨hcore.trans (hd.core hk.1), hstate.trans ?_⟩
      -- what later machines will do is known already
      have hlater : (∃ l ∈ is, madMachineActive (u.machine p (.slot l)) = true ∧
          Leaves u p event l k) ↔
          ∃ l ∈ is, madMachineActive (t.machine p (.slot l)) = true ∧ Leaves t p event l k := by
        refine exists_congr fun l => and_congr_right fun hl => ?_
        have hne : l ≠ j := fun heq => hnodup.1 (heq ▸ hl)
        rw [hd.leaves hne]
        refine and_congr_left fun hleaves => ?_
        rw [madMachineActive_of_core (hd.core hne) hleaves.1]
      rw [hlater]
      simp only [List.mem_cons, exists_eq_or_imp]
      by_cases hl : Leaves t p event j k
      · rw [hd.left k hk.1 hl]
        show leftState _ = .VO ∨ leftState _ = .VP ∧ _ ↔ _
        rw [leftState_eq_VO_iff, or_iff_left fun hvp => leftState_ne_VP _ hvp.1]
        exact or_congr_right (and_iff_left (Or.inl ⟨hj, hl⟩)).symm
      · rw [hd.kept k hk.1 hl]
        exact or_congr_right (and_congr_right fun _ => (or_iff_right fun hleft => hl hleft.2).symm)
    | false =>
      rw [deliveries, visit_cons_of_not hj] at h
      obtain ⟨hcore, hstate⟩ := ih hk.2 hnodup.2 h
      refine ⟨hcore, hstate.trans ?_⟩
      simp only [List.mem_cons, exists_eq_or_imp]
      refine or_congr_right (and_congr_right fun _ => (or_iff_right fun hleft => ?_).symm)
      exact Bool.false_ne_true (hj.symm.trans hleft.1)

/-! ### The circle -/

/-- A machine that comes before `next_to_process` is at rest when the circle comes to it: a
registration in `MT`, or a declaration that is in `VO` or comes to it. -/
def RestsAtTurn (t : State n) (p : Fin n) (event : MrpEvent) (k : Fin 24) : Prop :=
  (t.machine p (.slot k)).used = true →
    ((t.machine p (.slot k)).attrDir = .reg → (t.machine p (.slot k)).regState = .MT) ∧
    ((t.machine p (.slot k)).attrDir = .dec → (t.machine p (.slot k)).appState = .VO ∨
      (t.machine p (.slot k)).appState = .VP ∧ ∃ j : Fin 24, (t.ports p).nextToProcess ≤ j ∧
        madMachineActive (t.machine p (.slot j)) = true ∧ Leaves t p event j k)

/-- `mad_event` comes to the machines that the circle comes to. -/
structure ReachesActive (t : State n) (p : Fin n) (event : MrpEvent) : Prop where
  later : ∀ i : Fin 24, (t.ports p).nextToProcess ≤ i → (t.machine p (.slot i)).Agree
  earlier : ∀ k : Fin 24, k < (t.ports p).nextToProcess → RestsAtTurn t p event k

theorem restsAtTurn_iff (hk : k < (t.ports p).nextToProcess)
    (h : deliveries env p event madMachineActive (nextMachines t p) t = some (D, t')) :
    activeAt MadMachine.atWork p t' k = false ↔ RestsAtTurn t p event k := by
  have hnot : k ∉ nextMachines t p := fun hmem => absurd hk (not_lt.mpr (mem_nextMachines.mp hmem))
  obtain ⟨hcore, hstate⟩ := deliveries_others hnot ((List.nodup_finRange 24).filter _) h
  have heq := MadMachine.eq_withAppState hcore
  have hused : (t'.machine p (.slot k)).used = (t.machine p (.slot k)).used := by rw [heq]; rfl
  have hdir : (t'.machine p (.slot k)).attrDir = (t.machine p (.slot k)).attrDir := by rw [heq]; rfl
  have hreg : (t'.machine p (.slot k)).regState = (t.machine p (.slot k)).regState := by rw [heq]; rfl
  rw [activeAt, MadMachine.atWork, MadMachine.atRest, hused, hdir, hreg, RestsAtTurn]
  simp only [mem_nextMachines] at hstate
  cases (t.machine p (.slot k)).used with
  | false => simp
  | true =>
    cases (t.machine p (.slot k)).attrDir with
    | reg => simp
    | dec => simp [hstate]

/-- **Every active machine gets the event once.**  An event that `mad_event` delivers without
filling up a PDU comes to the machines that are used and not at rest when their turn comes, in a
circle from `next_to_process` on, exactly if no registration from there on is in `MT` or `L2`, and
all the machines before are at rest when the circle comes to them. -/
theorem madEvent_delivers_iff (env : Env n) (t t' : State n) (p : Fin n) (event : MrpEvent)
    (D : List (Fin 24)) (h : deliveries env p event madMachineActive (nextMachines t p)
      (t.record (.madEvent p event)) = some (D, t')) :
    madEvent env t p event = some t' ∧
      (deliveries env p event MadMachine.atWork (circle (t.ports p).nextToProcess)
          (t.record (.madEvent p event)) = some (D, t') ↔ ReachesActive t p event) := by
  refine ⟨machineLoop_of_deliveries h, ?_⟩
  have hnodup : (nextMachines t p).Nodup := (List.nodup_finRange 24).filter _
  have hcircle : circle (t.ports p).nextToProcess =
      nextMachines t p ++ earlierSlots (t.ports p).nextToProcess := rfl
  have hlater := visit_eq_iff deliver_stable hnodup h
  have hearlier : ∀ k : Fin 24, k < (t.ports p).nextToProcess →
      (activeAt MadMachine.atWork p t' k = false ↔ RestsAtTurn t p event k) := fun k hk =>
    @restsAtTurn_iff n env (t.record (.madEvent p event)) t' p event k D hk h
  rw [hcircle, deliveries, visit_append]
  constructor
  · rintro ⟨d₁, u, d₂, h₁, h₂, hd⟩
    -- the slots before have no part in what was delivered
    have hd₂ : d₂ = [] := by
      rw [List.eq_nil_iff_forall_not_mem]
      intro k hk
      have hbefore := mem_earlierSlots.mp ((visit_sublist h₂).subset hk)
      have hfrom := (visit_sublist h).subset (hd ▸ List.mem_append_right d₁ hk)
      exact absurd hbefore (not_lt.mpr (mem_nextMachines.mp hfrom))
    subst hd₂
    rw [List.append_nil] at hd
    subst hd
    have hagree := agree_of_visit deliver_stable hnodup h h₁
    have hsame := hlater.mpr hagree
    obtain rfl := (Prod.mk.inj (Option.some_inj.mp (h₁.symm.trans hsame))).2
    obtain ⟨-, hrest⟩ := visit_nil_iff.mp h₂
    exact ⟨fun i hi => agree_iff.mp (hagree i (mem_nextMachines.mpr hi)),
      fun k hk => (hearlier k hk).mp (hrest k (mem_earlierSlots.mpr hk))⟩
  · rintro ⟨hl, he⟩
    refine ⟨D, t', [], hlater.mpr fun i hi => ?_, ?_, (List.append_nil D).symm⟩
    · exact agree_iff.mpr (hl i (mem_nextMachines.mp hi))
    · rw [visit_nil_iff]
      refine ⟨rfl, fun k hk => ?_⟩
      exact (hearlier k (mem_earlierSlots.mp hk)).mpr (he k (mem_earlierSlots.mp hk))

/-- A Talker in `IN` gets a LeaveAll. -/
theorem madEvent_delivers_talker :
    ∃ D t', madEvent ⟨true, fun _ _ => false⟩ registeredTalker 0 .rLa = some t' ∧
      deliveries ⟨true, fun _ _ => false⟩ 0 .rLa MadMachine.atWork
        (circle (registeredTalker.ports 0).nextToProcess)
        (registeredTalker.record (.madEvent 0 .rLa)) = some (D, t') := by
  have hsome : (deliveries ⟨true, fun _ _ => false⟩ 0 .rLa madMachineActive
      (nextMachines registeredTalker 0) (registeredTalker.record (.madEvent 0 .rLa))).isSome = true := by
    decide +kernel
  obtain ⟨⟨D, t'⟩, h⟩ := Option.isSome_iff_exists.mp hsome
  have hall := madEvent_delivers_iff ⟨true, fun _ _ => false⟩ registeredTalker t' 0 .rLa D h
  refine ⟨D, t', hall.1, hall.2.mpr ⟨by decide +kernel, fun k hk => ?_⟩⟩
  exact absurd hk (Nat.not_lt_zero _)

/-- A Talker in `L2`, which one more leave timer takes to `L1`. -/
def agedTalker : State 1 :=
  (State.idle 1).setMachine ⟨0, Nat.one_pos⟩ .first
    ((MadMachine.ofStream .talkerAdvertise .reg).withRegState .L2)

/-- The leave timer of the Talker in `L2` is not delivered, although the Talker is at work. -/
theorem madEvent_passes_over :
    (deliveries ⟨true, fun _ _ => false⟩ 0 .leaveTimer madMachineActive (nextMachines agedTalker 0)
        (agedTalker.record (.madEvent 0 .leaveTimer))).map Prod.fst = some [] ∧
      (deliveries ⟨true, fun _ _ => false⟩ 0 .leaveTimer MadMachine.atWork
        (circle (agedTalker.ports 0).nextToProcess)
        (agedTalker.record (.madEvent 0 .leaveTimer))).map Prod.fst = some [0] := by
  decide +kernel

end Msrp
