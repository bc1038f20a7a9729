/-
What a join declares on the other ports.

`msrp_map_join_propagate` goes through the other ports, for a Listener through those with a
reservation of the Talker, and makes a declaration of an unused machine on each of them.  Where
unused machines are as they are in zeroed memory, everything about the declaration is known:

* `joinPort_eq_some` — what is done to one port, as an equation;
* `Declared` — the loop over the ports, which come one at a time and leave each other alone;
* `joinPropagation_once` — one declaration on each port the join goes to, and nothing else.
-/
import AvbSwitch.DeclarationUniqueness
import AvbSwitch.ReservationTable

namespace Msrp

variable {n : ℕ} {env : Env n} {t t' u : State n} {p q : Fin n} {m : MadMachine} {i : Fin 10}
  {k : Fin 24} {new : Bool}

/-! ### One port -/

/-- The state that a declaration is in after the event of the join request. -/
def joinedState (new : Bool) : ApplicantState := if new then .VN else .VP

/-- A join timer after a request for an opportunity to transmit. -/
def TimersContext.requested (c : TimersContext) : TimersContext :=
  if c.running then c else ⟨true, mrpJointimerPeriod⟩

/-- The declaration that a join of `m` makes of zeroed memory. -/
def newDeclaration (m : MadMachine) (i : Fin 10) (id : UInt32 × UInt32) (new : Bool) : MadMachine :=
  (declaredMachine m i id .zero).withAppState (joinedState new)

/-- A participant with a declaration in slot `k`, which has requested an opportunity to
transmit. -/
def Participant.declare (pp : Participant) (k : Fin 24) (d : MadMachine) : Participant :=
  { pp.setMachine (.slot k) d with joinTimer := pp.joinTimer.requested }

theorem mrpReqTxOpportunity_eq :
    mrpReqTxOpportunity t p =
      t.setPort p { t.ports p with joinTimer := (t.ports p).joinTimer.requested } := by
  rw [mrpReqTxOpportunity, TimersContext.requested]
  split
  · rw [State.setPort, Function.update_eq_self]
  · rfl

theorem State.record_setPort {r : Record n} {pp : Participant} :
    (t.record r).setPort p pp = (t.setPort p pp).record r := rfl

/-- In `VO` both join events lead to a state that requests to transmit, and send nothing. -/
theorem joinTrans : ∀ (new pointToPoint : Bool) (m : MadMachine), m.appState = .VO →
    applicantTrans pointToPoint m (joinEvent new) = some ⟨joinedState new, Action.reqTx⟩ := by
  intro new pointToPoint m hm
  rw [applicantTrans, hm]
  cases new <;> rfl

theorem sentEvent_reqTx (registered : Bool) : sentEvent registered Action.reqTx = none := rfl

/-- What a join does to a port that it goes to, if the unused machine is zero. -/
theorem joinPort_eq_some (helig : JoinEligible t m (t.streamInfoVars i).streamID q)
    (hk : firstUnused t q = some k) (hzero : t.machine q (.slot k) = .zero) :
    joinPort env m i new t q = some ((t.setPort q ((t.ports q).declare k
      (newDeclaration m i (t.streamInfoVars i).streamID new))).record
        (.madAttrEvent q (.slot k) (joinEvent new))) := by
  rw [joinPort_eq helig hk, hzero, declarationEvent, applicant, State.record_machine,
    State.setMachine_machine_self, joinTrans new _ _ rfl]
  dsimp only
  rw [if_neg (by rintro ⟨⟩), sentEvent_reqTx]
  dsimp only
  rw [if_pos (by decide), mrpReqTxOpportunity_eq, Option.map_some, State.setAppState,
    State.setMachine, State.machine, State.setPort_ports_self, State.record_ports, State.setMachine,
    State.setPort_ports_self]
  refine congrArg some ?_
  -- the port is written three times, and the log once
  rw [State.setPort_setPort, State.record_setPort, State.setPort_setPort, newDeclaration]
  refine congrArg (fun pp => (t.setPort q pp).record _) ?_
  simp only [Participant.declare, Participant.setMachine, Function.update_self, Function.update_idem]
  rfl

/-! ### The loop over the ports -/

/-- What a join of `m` does to the ports `qs`. -/
structure Declared (m : MadMachine) (i : Fin 10) (new : Bool) (qs : List (Fin n)) (t t' : State n) :
    Prop where
  streams : t'.streamInfoVars = t.streamInfoVars
  reservations : t'.reservations = t.reservations
  on : ∀ q ∈ qs, JoinEligible t m (t.streamInfoVars i).streamID q →
    ∃ k, firstUnused t q = some k ∧ t'.ports q = (t.ports q).declare k
      (newDeclaration m i (t.streamInfoVars i).streamID new)
  off : ∀ q, (q ∈ qs → ¬ JoinEligible t m (t.streamInfoVars i).streamID q) →
    t'.ports q = t.ports q

/-- Every participant has an unused machine, and these are zero. -/
def UnusedAreZero (t : State n) (q : Fin n) : Prop :=
  (∃ k, (t.machine q (.slot k)).used = false) ∧
    ∀ k, (t.machine q (.slot k)).used = false → t.machine q (.slot k) = .zero

theorem machine_of_ports (h : u.ports q = t.ports q) : u.machine q = t.machine q := by
  funext x
  rw [State.machine, h]
  rfl

theorem firstUnused_congr (h : u.ports q = t.ports q) : firstUnused u q = firstUnused t q := by
  rw [firstUnused, machine_of_ports h]
  rfl

theorem firstUnused_of_exists (h : ∃ k, (t.machine q (.slot k)).used = false) :
    ∃ k, firstUnused t q = some k ∧ (t.machine q (.slot k)).used = false := by
  obtain ⟨k, hk⟩ := h
  have hsome : (firstUnused t q).isSome :=
    List.find?_isSome.mpr ⟨k, List.mem_finRange k, decide_eq_true hk⟩
  obtain ⟨j, hj⟩ := Option.isSome_iff_exists.mp hsome
  have hunused := List.find?_some hj
  exact ⟨j, hj, of_decide_eq_true hunused⟩

/-- One turn of the loop. -/
theorem joinPort_declared (env : Env n) (m : MadMachine) (i : Fin 10) (new : Bool)
    (hzero : UnusedAreZero t q) :
    ∃ t', joinPort env m i new t q = some t' ∧ Declared m i new [q] t t' := by
  by_cases helig : JoinEligible t m (t.streamInfoVars i).streamID q
  · obtain ⟨k, hk, hunused⟩ := firstUnused_of_exists hzero.1
    refine ⟨_, joinPort_eq_some helig hk (hzero.2 k hunused), rfl, rfl, fun r hr _ => ?_,
      fun r hr => ?_⟩
    · rw [List.mem_singleton.mp hr]
      exact ⟨k, hk, State.setPort_ports_self⟩
    · refine State.setPort_ports_of_ne ?_
      rintro rfl
      exact hr (List.mem_singleton_self r) helig
  · refine ⟨t, ?_, rfl, rfl, fun r hr he => ?_, fun _ _ => rfl⟩
    · rw [joinPort, if_pos (not_not.mp helig)]
    · rw [List.mem_singleton.mp hr] at he
      exact absurd he helig

/-- Ports that a join has not come to yet. -/
theorem Declared.eligible {qs : List (Fin n)} (h : Declared m i new qs t u) :
    JoinEligible u m (u.streamInfoVars i).streamID q ↔
      JoinEligible t m (t.streamInfoVars i).streamID q := by
  rw [JoinEligible, JoinEligible, h.streams, msrpFindReservationByDeclaration, h.reservations]
  rfl

/-- The turns come to different ports. -/
theorem Declared.cons {qs : List (Fin n)} (hq : q ∉ qs) (h : Declared m i new [q] t u)
    (h' : Declared m i new qs u t') : Declared m i new (q :: qs) t t' := by
  have hother : ∀ r ∈ qs, u.ports r = t.ports r := by
    intro r hr
    refine h.off r fun hr' => ?_
    rw [List.mem_singleton.mp hr'] at hr
    exact absurd hr hq
  refine ⟨h'.streams.trans h.streams, h'.reservations.trans h.reservations, ?_, ?_⟩
  · intro r hr helig
    rcases List.mem_cons.mp hr with rfl | hr
    · obtain ⟨k, hk, hport⟩ := h.on r (List.mem_singleton_self r) helig
      exact ⟨k, hk, (h'.off r fun hr' => absurd hr' hq).trans hport⟩
    · obtain ⟨k, hk, hport⟩ := h'.on r hr (h.eligible.mpr helig)
      rw [firstUnused_congr (hother r hr)] at hk
      rw [hother r hr, h.streams] at hport
      exact ⟨k, hk, hport⟩
  · intro r hr
    have hlater : u.ports r = t.ports r := by
      refine h.off r fun hr' => hr ?_
      rw [List.mem_singleton.mp hr']
      exact List.mem_cons_self
    exact (h'.off r fun hr' helig => hr (List.mem_cons_of_mem q hr') (h.eligible.mp helig)).trans hlater

theorem joinPorts_declared (env : Env n) (m : MadMachine) (i : Fin 10) (new : Bool) :
    ∀ {qs : List (Fin n)} {t : State n}, qs.Nodup → (∀ q ∈ qs, UnusedAreZero t q) →
      ∃ t', Runs.run (joinPort env m i new) t qs = some t' ∧ Declared m i new qs t t' := by
  intro qs
  induction qs with
  | nil =>
    intro t _ _
    exact ⟨t, Runs.run_nil, rfl, rfl, fun q hq => absurd hq List.not_mem_nil, fun _ _ => rfl⟩
  | cons q qs ih =>
    intro t hnodup hzero
    rw [List.nodup_cons] at hnodup
    rw [List.forall_mem_cons] at hzero
    obtain ⟨u, hu, hdeclared⟩ := joinPort_declared env m i new hzero.1
    have hrest : ∀ r ∈ qs, UnusedAreZero u r := by
      intro r hr
      have hsame : u.ports r = t.ports r := by
        refine hdeclared.off r fun hr' => ?_
        rw [List.mem_singleton.mp hr'] at hr
        exact absurd hr hnodup.1
      rw [UnusedAreZero, machine_of_ports hsame]
      exact hzero.2 r hr
    obtain ⟨t', hrun, hdeclared'⟩ := ih hnodup.2 hrest
    exact ⟨t', Runs.run_cons_eq_some.mpr ⟨u, hu, hrun⟩, hdeclared.cons hnodup.1 hdeclared'⟩

/-! ### The join -/

/-- On port `q` the machine in slot `k` has become the declaration of the join, an opportunity to
transmit has been requested, and nothing else has changed. -/
structure DeclaredOn (t t' : State n) (q : Fin n) (m : MadMachine) (id : UInt32 × UInt32)
    (new : Bool) (k : Fin 24) : Prop where
  unused : (t.machine q (.slot k)).used = false
  used : (t'.machine q (.slot k)).used = true
  attrDir : (t'.machine q (.slot k)).attrDir = .dec
  attributeType : (t'.machine q (.slot k)).attributeType = m.attributeType
  streamID : (t'.machine q (.slot k)).streamID = id
  fourVectorParameter : m.attributeType = .listener →
    (t'.machine q (.slot k)).fourVectorParameter = m.fourVectorParameter
  appState : (t'.machine q (.slot k)).appState = joinedState new
  others : ∀ x, x ≠ .slot k → t'.machine q x = t.machine q x
  joinTimer : (t'.ports q).joinTimer = (t.ports q).joinTimer.requested
  rest : t'.ports q = { t.ports q with
    machine := (t'.ports q).machine, joinTimer := (t'.ports q).joinTimer }

theorem DeclaredOn.unique {id : UInt32 × UInt32} {l : Fin 24} (h : DeclaredOn t t' q m id new k)
    (h' : DeclaredOn t t' q m id new l) : l = k := by
  by_contra hne
  have hsame := h.others (.slot l) fun heq => hne (MachineRef.slot.inj heq)
  have hused := h'.used
  rw [hsame, h'.unused] at hused
  exact Bool.false_ne_true hused

/-- A Listener is declared with the four-packed event of its registration. -/
theorem propagatedAs_listener (h : m.attributeType = .listener) :
    (propagatedAs m).2 = m.fourVectorParameter := by
  rw [propagatedAs, h]

theorem declaredOn_of_declare (hstream : m.attributeType.IsStream) {id : UInt32 × UInt32}
    (hunused : (t.machine q (.slot k)).used = false)
    (hport : t'.ports q = (t.ports q).declare k (newDeclaration m i id new)) :
    DeclaredOn t t' q m id new k := by
  have hself : t'.machine q (.slot k) = newDeclaration m i id new := by
    rw [State.machine, hport]
    exact Participant.setMachine_machine_self
  refine ⟨hunused, ?_, ?_, ?_, ?_, fun h => ?_, ?_, fun x hx => ?_, ?_, ?_⟩
  · rw [hself]
    rfl
  · rw [hself]
    rfl
  · rw [hself]
    exact propagatedAs_fst hstream
  · rw [hself]
    rfl
  · rw [hself]
    exact propagatedAs_listener h
  · rw [hself]
    rfl
  · rw [State.machine, hport]
    exact Participant.setMachine_machine_of_ne hx
  · rw [hport]
    rfl
  · rw [hport]
    rfl

/-- The ports that a join goes to, by the reservations. -/
theorem joinEligible_iff {id : UInt32 × UInt32} : JoinEligible t m id q ↔
    (m.attributeType = .listener → Reserved t id q .talkerAdvertise) := by
  rw [JoinEligible, not_and]
  refine forall_congr' fun _ => ⟨fun h => ?_, fun h hnone => not_reserved_of_find hnone h⟩
  by_contra hnot
  exact h (find_of_not_reserved hnot)

/-- **A join declares once on each port that it goes to.**  A stream's registration on port `p` is
propagated where every participant has an unused machine and unused machines are zero: each other
port, for a Listener each with a Talker Advertise reservation of the stream, gets one declaration,
and all the rest is as it was. -/
theorem joinPropagation_once (env : Env n) (t : State n) (p : Fin n) (m : MadMachine) (new : Bool)
    (i : Fin 10) (hstream : m.attributeType.IsStream) (hinfo : m.attributeInfo = some i)
    (hzero : ∀ q, UnusedAreZero t q) :
    ∃ t', msrpMapJoinPropagate env t p m new = some t' ∧ t'.reservations = t.reservations ∧
      t'.streamInfoVars = t.streamInfoVars ∧ t'.ports p = t.ports p ∧
      ∀ q, q ≠ p →
        ((m.attributeType = .listener →
            Reserved t (t.streamInfoVars i).streamID q .talkerAdvertise) →
          ∃! k, DeclaredOn t t' q m (t.streamInfoVars i).streamID new k) ∧
        (¬ (m.attributeType = .listener →
            Reserved t (t.streamInfoVars i).streamID q .talkerAdvertise) →
          t'.ports q = t.ports q) := by
  obtain ⟨t', hrun, hdeclared⟩ := joinPorts_declared env m i new (@otherPorts_nodup n p)
    fun q _ => hzero q
  refine ⟨t', ?_, hdeclared.reservations, hdeclared.streams, ?_, fun q hq => ⟨fun h => ?_, fun h => ?_⟩⟩
  · rw [msrpMapJoinPropagate, if_neg hstream, hinfo]
    exact hrun
  · exact hdeclared.off p fun hmem => absurd rfl (mem_otherPorts.mp hmem)
  · obtain ⟨k, hk, hport⟩ := hdeclared.on q (mem_otherPorts.mpr hq) (joinEligible_iff.mpr h)
    have hunused : (t.machine q (.slot k)).used = false := by
      have hfirst := List.find?_some hk
      exact of_decide_eq_true hfirst
    have hon := declaredOn_of_declare hstream hunused hport
    exact ⟨k, hon, fun l hl => hon.unique hl⟩
  · exact hdeclared.off q fun _ helig => h (joinEligible_iff.mp helig)

/-- A Talker's registration on the first of two ports that have no machines. -/
theorem joinPropagation_once_talker :
    ∃ t', msrpMapJoinPropagate ⟨true, fun _ _ => false⟩ (State.idle 2) 0
        (MadMachine.ofStream .talkerAdvertise .reg) true = some t' ∧
      t'.ports 0 = (State.idle 2).ports 0 ∧
      ∃! k, DeclaredOn (State.idle 2) t' 1 (MadMachine.ofStream .talkerAdvertise .reg) (0, 0) true k := by
  obtain ⟨t', hjoin, -, -, hport, hothers⟩ := joinPropagation_once ⟨true, fun _ _ => false⟩ (State.idle 2)
    0 (MadMachine.ofStream .talkerAdvertise .reg) true 0 (by decide) rfl
    fun _ => ⟨⟨0, rfl⟩, fun _ _ => rfl⟩
  refine ⟨t', hjoin, hport, (hothers 1 (by decide)).1 fun h => ?_⟩
  cases h

end Msrp
