/-
What the parts of `mad_attr_event` change.

* `AppOnly` — one machine's applicant state, and the join timer and send buffer of its port;
* `SameCore` — applicant states only, of any machines;
* `Quiet` — anything but the leave timers and the LeaveAll timers, the log telling of calls
  of `mad_attr_event` only.

The applicant is `AppOnly`; for the events up to `MRP_EVENT_R_LA` it sends nothing, so that
it is defined as well (`applicant_defined`).  The propagations are taken apart port by port.
-/
import AvbSwitch.MsrpMad

namespace Msrp

variable {n : ℕ} {env : Env n} {t t' t'' : State n} {p q : Fin n} {ref x : MachineRef}
  {m : MadMachine} {event : MrpEvent} {r : ℤ}

/-! ### The applicant -/

structure AppOnly (p : Fin n) (ref : MachineRef) (t t' : State n) : Prop where
  streams : t'.streamInfoVars = t.streamInfoVars
  reservations : t'.reservations = t.reservations
  log : t'.log = t.log
  machine : ∃ s, ∀ q x, t'.machine q x =
    if q = p ∧ x = ref then (t.machine p ref).withAppState s else t.machine q x
  leaveTimer : ∀ q, (t'.ports q).leaveTimer = (t.ports q).leaveTimer
  leaveallTimer : ∀ q, (t'.ports q).leaveallTimer = (t.ports q).leaveallTimer

namespace AppOnly

theorem refl : AppOnly p ref t t where
  streams := rfl
  reservations := rfl
  log := rfl
  machine := by
    refine ⟨(t.machine p ref).appState, fun q x => ?_⟩
    split
    · next h =>
      rw [h.1, h.2]
      rfl
    · rfl
  leaveTimer _ := rfl
  leaveallTimer _ := rfl

theorem trans (h : AppOnly p ref t t') (h' : AppOnly p ref t' t'') : AppOnly p ref t t'' where
  streams := h'.streams.trans h.streams
  reservations := h'.reservations.trans h.reservations
  log := h'.log.trans h.log
  machine := by
    obtain ⟨s, hs⟩ := h.machine
    obtain ⟨s', hs'⟩ := h'.machine
    refine ⟨s', fun q x => ?_⟩
    rw [hs', hs q x, hs p ref, if_pos (And.intro rfl rfl)]
    split <;> rfl
  leaveTimer q := (h'.leaveTimer q).trans (h.leaveTimer q)
  leaveallTimer q := (h'.leaveallTimer q).trans (h.leaveallTimer q)

/-- Another join timer or send buffer. -/
theorem setPort {pp : Participant} (hmachine : pp.machine = (t.ports p).machine)
    (hleave : pp.leaveTimer = (t.ports p).leaveTimer)
    (hleaveall : pp.leaveallTimer = (t.ports p).leaveallTimer) :
    AppOnly p ref t (t.setPort p pp) := by
  have hports : ∀ {α : Type} (f : Participant → α), f pp = f (t.ports p) →
      ∀ q, f ((t.setPort p pp).ports q) = f (t.ports q) := by
    intro α f hf q
    by_cases hq : q = p
    · rw [hq, State.setPort_ports_self, hf]
    · rw [State.setPort_ports_of_ne hq]
  have hsame : (t.setPort p pp).machine = t.machine :=
    funext fun q => hports Participant.machine hmachine q
  exact
    { streams := rfl
      reservations := rfl
      log := rfl
      machine := by
        obtain ⟨s, hs⟩ := (refl : AppOnly p ref t t).machine
        exact ⟨s, fun q x => by rw [hsame]; exact hs q x⟩
      leaveTimer := hports Participant.leaveTimer hleave
      leaveallTimer := hports Participant.leaveallTimer hleaveall }

theorem setAppState {s : ApplicantState} : AppOnly p ref t (t.setAppState p ref s) where
  streams := rfl
  reservations := rfl
  log := rfl
  machine := ⟨s, fun q x => State.setMachine_machine⟩
  leaveTimer q := by
    by_cases hq : q = p
    · rw [hq, State.setAppState, State.setMachine, State.setPort_ports_self]
      rfl
    · rw [State.setAppState, State.setMachine, State.setPort_ports_of_ne hq]
  leaveallTimer q := by
    by_cases hq : q = p
    · rw [hq, State.setAppState, State.setMachine, State.setPort_ports_self]
      rfl
    · rw [State.setAppState, State.setMachine, State.setPort_ports_of_ne hq]

theorem mrpReqTxOpportunity : AppOnly p ref t (mrpReqTxOpportunity t p) := by
  rw [Msrp.mrpReqTxOpportunity]
  split
  · exact refl
  · exact setPort rfl rfl rfl

end AppOnly

theorem applicant_appOnly (h : applicant env t p ref event = some (t', r)) :
    AppOnly p ref t t' := by
  have hfinish : ∀ (u : State n) (action : Action) (s : ApplicantState),
      AppOnly p ref u ((if action &&& Action.reqTxMask ≠ 0 then mrpReqTxOpportunity u p
        else u).setAppState p ref s) := by
    intro u action s
    split
    · exact AppOnly.mrpReqTxOpportunity.trans AppOnly.setAppState
    · exact AppOnly.setAppState
  rw [applicant] at h
  rcases htrans : applicantTrans (t.ports p).pointToPoint (t.machine p ref) event with _ | ⟨s, action⟩
  · simp only [htrans, Option.some_inj, Prod.mk.injEq] at h
    exact h.1 ▸ AppOnly.refl
  · simp only [htrans] at h
    split at h
    · simp only [Option.some_inj, Prod.mk.injEq] at h
      exact h.1 ▸ AppOnly.setAppState
    · -- a participant: what is sent goes into the send buffer
      split at h
      · simp only [Option.some_inj, Prod.mk.injEq] at h
        exact h.1 ▸ hfinish t action s
      · split at h
        · simp at h
        · split at h
          · simp only [Option.some_inj, Prod.mk.injEq] at h
            rw [← h.1]
            exact AppOnly.trans (by exact AppOnly.setPort rfl rfl rfl) AppOnly.mrpReqTxOpportunity
          · simp only [Option.some_inj, Prod.mk.injEq] at h
            rw [← h.1]
            exact AppOnly.trans (by exact AppOnly.setPort rfl rfl rfl) (hfinish _ action s)

/-- The events in front of `MRP_EVENT_TX`. -/
def MrpEvent.Silent (e : MrpEvent) : Prop := e.index ≤ MrpEvent.rLa.index

instance (e : MrpEvent) : Decidable e.Silent :=
  inferInstanceAs (Decidable (e.index ≤ MrpEvent.rLa.index))

theorem applicantEntry_silent : ∀ (s : ApplicantState) (e : MrpEvent) (registered : Bool),
    e.Silent → sentEvent registered (applicantEntry s e).action = none := by
  decide +kernel

/-- Nothing is sent in answer to the events in front of `MRP_EVENT_TX`. -/
theorem applicant_defined (env : Env n) (t : State n) (p : Fin n) (ref : MachineRef)
    (hsilent : event.Silent) :
    ∃ t', applicant env t p ref event = some (t', 0) := by
  rw [applicant]
  rcases htrans : applicantTrans (t.ports p).pointToPoint (t.machine p ref) event with _ | ⟨s, action⟩
  · exact ⟨t, rfl⟩
  · dsimp only
    split
    · exact ⟨_, rfl⟩
    · have hne : event ≠ .tx := by
        rintro rfl
        exact absurd hsilent (by decide)
      have haction : action = (applicantEntry (t.machine p ref).appState event).action := by
        simp only [applicantTrans, hne, false_and, and_false, if_false] at htrans
        split at htrans
        · simp at htrans
        · split at htrans
          · simp at htrans
          · split at htrans
            · simp at htrans
            · rw [Option.some_inj] at htrans
              rw [htrans]
      rw [haction, applicantEntry_silent _ _ _ hsilent]
      exact ⟨_, rfl⟩

/-! ### Changes that do not matter -/

structure SameCore (t t' : State n) : Prop where
  streams : t'.streamInfoVars = t.streamInfoVars
  reservations : t'.reservations = t.reservations
  core : ∀ q x, (t'.machine q x).core = (t.machine q x).core

namespace SameCore

theorem refl : SameCore t t := ⟨rfl, rfl, fun _ _ => rfl⟩

theorem trans (h : SameCore t t') (h' : SameCore t' t'') : SameCore t t'' :=
  ⟨h'.streams.trans h.streams, h'.reservations.trans h.reservations,
    fun q x => (h'.core q x).trans (h.core q x)⟩

theorem streamID (h : SameCore t t') (q : Fin n) (x : MachineRef) :
    (t'.machine q x).streamID = (t.machine q x).streamID := by
  show (t'.machine q x).core.streamID = (t.machine q x).core.streamID
  rw [h.core]

theorem attrDir (h : SameCore t t') (q : Fin n) (x : MachineRef) :
    (t'.machine q x).attrDir = (t.machine q x).attrDir := by
  show (t'.machine q x).core.attrDir = (t.machine q x).core.attrDir
  rw [h.core]

theorem record {r : Record n} : SameCore t (t.record r) := ⟨rfl, rfl, fun _ _ => rfl⟩

end SameCore

theorem AppOnly.sameCore (h : AppOnly p ref t t') : SameCore t t' := by
  obtain ⟨s, hs⟩ := h.machine
  refine ⟨h.streams, h.reservations, fun q x => ?_⟩
  rw [hs]
  split
  · next heq =>
    rw [heq.1, heq.2]
    rfl
  · rfl

structure Quiet (t t' : State n) : Prop where
  leaveTimer : ∀ q, (t'.ports q).leaveTimer = (t.ports q).leaveTimer
  leaveallTimer : ∀ q, (t'.ports q).leaveallTimer = (t.ports q).leaveallTimer
  log : ∃ l, t'.log = t.log ++ l ∧ ∀ r ∈ l, ∃ q x e, r = .madAttrEvent q x e

namespace Quiet

theorem refl : Quiet t t := ⟨fun _ => rfl, fun _ => rfl, [], by simp, by simp⟩

theorem trans (h : Quiet t t') (h' : Quiet t' t'') : Quiet t t'' := by
  obtain ⟨l, hl, hmem⟩ := h.log
  obtain ⟨l', hl', hmem'⟩ := h'.log
  refine ⟨fun q => (h'.leaveTimer q).trans (h.leaveTimer q),
    fun q => (h'.leaveallTimer q).trans (h.leaveallTimer q), l ++ l', ?_, fun r hr => ?_⟩
  · rw [hl', hl, List.append_assoc]
  · exact (List.mem_append.mp hr).elim (hmem r) (hmem' r)

theorem record {e : MrpEvent} : Quiet t (t.record (.madAttrEvent p ref e)) :=
  ⟨fun _ => rfl, fun _ => rfl, [_], rfl, fun _ hr => ⟨p, ref, e, List.mem_singleton.mp hr⟩⟩

theorem setMachine : Quiet t (t.setMachine p ref m) := by
  refine ⟨fun q => ?_, fun q => ?_, [], by simp, by simp⟩
  all_goals
    by_cases hq : q = p
    · rw [hq, State.setMachine, State.setPort_ports_self]
      rfl
    · rw [State.setMachine, State.setPort_ports_of_ne hq]

end Quiet

theorem AppOnly.quiet (h : AppOnly p ref t t') : Quiet t t' :=
  ⟨h.leaveTimer, h.leaveallTimer, [], by rw [h.log, List.append_nil], by simp⟩

/-! ### Declarations -/

theorem declarationEvent_appOnly (h : declarationEvent env t p ref event = some (t', r)) :
    AppOnly p ref (t.record (.madAttrEvent p ref event)) t' := applicant_appOnly h

/-- The log entry of a leave on port `q`. -/
def leaveRecord (t : State n) (id : UInt32 × UInt32) (q : Fin n) : Option (Record n) :=
  (findMatchingDecAttributeByStreamInfo t id q).map fun i => .madAttrEvent q (.slot i) .lv

theorem findMatchingDec_congr (h : SameCore t t') (id : UInt32 × UInt32) (q : Fin n) :
    findMatchingDecAttributeByStreamInfo t' id q = findMatchingDecAttributeByStreamInfo t id q := by
  simp only [findMatchingDecAttributeByStreamInfo, h.streamID, h.attrDir]

theorem leavePort_spec (env : Env n) (id : UInt32 × UInt32) (t : State n) (q : Fin n) :
    ∃ t', leavePort env id t q = some t' ∧ SameCore t t' ∧ Quiet t t' ∧
      t'.log = t.log ++ (leaveRecord t id q).toList ∧
      ∀ r x, leaveRecord t id q ≠ some (.madAttrEvent r x .lv) → t'.machine r x = t.machine r x := by
  rw [leavePort, leaveRecord]
  rcases hfind : findMatchingDecAttributeByStreamInfo t id q with _ | i
  · exact ⟨t, rfl, SameCore.refl, Quiet.refl, by simp, fun _ _ _ => rfl⟩
  · obtain ⟨t', ht⟩ := applicant_defined env (t.record (.madAttrEvent q (.slot i) .lv)) q
      (.slot i) (show MrpEvent.lv.Silent by decide)
    have happ := applicant_appOnly ht
    refine ⟨t', ?_, SameCore.record.trans happ.sameCore, Quiet.record.trans happ.quiet, ?_, fun r x hne => ?_⟩
    · show msrpMadLeaveReq env t q (.slot i) = some t'
      rw [msrpMadLeaveReq, declarationEvent, ht]
      rfl
    · rw [happ.log]
      rfl
    · obtain ⟨s, hs⟩ := happ.machine
      rw [hs, if_neg]
      · rfl
      · rintro ⟨rfl, rfl⟩
        exact hne rfl

/-- What a leave does to a list of ports. -/
theorem leavePorts_spec (env : Env n) (id : UInt32 × UInt32) : ∀ (qs : List (Fin n)) (t : State n),
    ∃ t', Runs.run (leavePort env id) t qs = some t' ∧ SameCore t t' ∧ Quiet t t' ∧
      t'.log = t.log ++ qs.filterMap (leaveRecord t id) ∧
      ∀ r x, .madAttrEvent r x .lv ∉ qs.filterMap (leaveRecord t id) →
        t'.machine r x = t.machine r x := by
  intro qs
  induction qs with
  | nil => exact fun t => ⟨t, rfl, SameCore.refl, Quiet.refl, by simp, fun _ _ _ => rfl⟩
  | cons q qs ih =>
    intro t
    obtain ⟨u, hu, hcore, hquiet, hlog, hsame⟩ := leavePort_spec env id t q
    obtain ⟨t', ht, hcore', hquiet', hlog', hsame'⟩ := ih u
    have hrecords : qs.filterMap (leaveRecord u id) = qs.filterMap (leaveRecord t id) :=
      List.filterMap_congr fun r _ => by
        rw [leaveRecord, leaveRecord, findMatchingDec_congr hcore]
    have hcons : (q :: qs).filterMap (leaveRecord t id) =
        (leaveRecord t id q).toList ++ qs.filterMap (leaveRecord t id) := by
      rw [List.filterMap_cons]
      cases leaveRecord t id q <;> rfl
    refine ⟨t', Runs.run_cons_eq_some.mpr ⟨u, hu, ht⟩, hcore.trans hcore', hquiet.trans hquiet',
      ?_, fun r x hne => ?_⟩
    · rw [hlog', hlog, hrecords, hcons, List.append_assoc]
    · rw [hcons, List.mem_append, not_or] at hne
      rw [hsame' r x (by rw [hrecords]; exact hne.2),
        hsame r x fun heq => hne.1 (by rw [heq]; simp)]

/-! ### Joins -/

/-- The cases of `msrp_mad_join_ind`. -/
theorem msrpMadJoinInd_cases (h : msrpMadJoinInd t p m = some (t', r)) :
    (m.attributeType = .domainVector ∧ t' = t ∧ r = 1) ∨
    (m.attributeType.IsStream ∧ m.attributeInfo = none ∧ t' = t ∧ r = -1) ∨
    ∃ i, m.attributeType.IsStream ∧ m.attributeInfo = some i ∧ r = 1 ∧
      ((t' = t ∧ ∃ j, msrpFindReservationByDeclaration t (t.streamInfoVars i).streamID p
          m.attributeType.index = some j) ∨
        (msrpFindReservationByDeclaration t (t.streamInfoVars i).streamID p
            m.attributeType.index = none ∧
          ∃ j, msrpGetFreeReservation t = some j ∧ t' = t.setReservation j
            (madeReservation (t.streamInfoVars i) p m.attributeType m.fourVectorParameter))) := by
  rw [msrpMadJoinInd] at h
  by_cases hd : m.attributeType = .domainVector
  · rw [if_pos hd, Option.some_inj, Prod.mk.injEq] at h
    exact Or.inl ⟨hd, h.1.symm, h.2.symm⟩
  · rw [if_neg hd] at h
    refine Or.inr ?_
    rcases hi : m.attributeInfo with _ | i
    · simp only [hi, Option.some_inj, Prod.mk.injEq] at h
      exact Or.inl ⟨hd, rfl, h.1.symm, h.2.symm⟩
    · simp only [hi] at h
      refine Or.inr ⟨i, hd, rfl, ?_⟩
      rcases hf : msrpFindReservationByDeclaration t (t.streamInfoVars i).streamID p
        m.attributeType.index with _ | j
      · simp only [hf, Option.map_eq_some_iff, Prod.mk.injEq, msrpMakeReservation] at h
        obtain ⟨u, ⟨j, hj, rfl⟩, rfl, rfl⟩ := h
        exact ⟨rfl, Or.inr ⟨rfl, j, hj, rfl⟩⟩
      · simp only [hf, Option.some_inj, Prod.mk.injEq] at h
        exact ⟨h.2.symm, Or.inl ⟨h.1.symm, j, rfl⟩⟩

/-- The first machine of a participant that is not in use. -/
def firstUnused (t : State n) (q : Fin n) : Option (Fin 24) :=
  (List.finRange 24).find? fun i => (t.machine q (.slot i)).used = false

/-- A join of `m` goes to port `q`: for a Listener there has to be a reservation of the
Talker. -/
def JoinEligible (t : State n) (m : MadMachine) (id : UInt32 × UInt32) (q : Fin n) : Prop :=
  ¬ (m.attributeType = .listener ∧
    msrpFindReservationByDeclaration t id q AttributeType.talkerAdvertise.index = none)

instance (t : State n) (m : MadMachine) (id : UInt32 × UInt32) (q : Fin n) :
    Decidable (JoinEligible t m id q) :=
  inferInstanceAs (Decidable (¬ (m.attributeType = .listener ∧
    msrpFindReservationByDeclaration t id q AttributeType.talkerAdvertise.index = none)))

/-- The reservation that is made on port `p` is not found on another port. -/
theorem find_setReservation_of_ne {j : Fin 30} {info : StreamInfo} {ty : AttributeType} {four sub : ℤ}
    {id : UInt32 × UInt32} (hfree : msrpGetFreeReservation t = some j) (hq : q ≠ p) :
    msrpFindReservationByDeclaration (t.setReservation j (madeReservation info p ty four)) id q sub =
      msrpFindReservationByDeclaration t id q sub := by
  have hunused : (t.reservations j).used = false := by simpa using List.find?_some hfree
  have hport : (madeReservation info p ty four).pPort ≠ some q := by
    cases ty with
    | domainVector => exact Option.some_ne_none q |>.symm
    | _ => exact fun h => hq (Option.some_inj.mp h).symm
  rw [msrpFindReservationByDeclaration, msrpFindReservationByDeclaration]
  congr 1
  funext k
  by_cases hk : k = j
  · subst hk
    simp [State.setReservation, hunused, hport]
  · simp only [State.setReservation, Function.update_of_ne hk]

/-- A join indication on port `p` does not make another port eligible. -/
theorem joinEligible_joinInd (h : msrpMadJoinInd t p m = some (t', r)) (hq : q ≠ p)
    (id : UInt32 × UInt32) : JoinEligible t' m id q ↔ JoinEligible t m id q := by
  rcases msrpMadJoinInd_cases h with ⟨-, rfl, -⟩ | ⟨-, -, rfl, -⟩ |
    ⟨i, -, -, -, ⟨rfl, -⟩ | ⟨-, j, hj, rfl⟩⟩
  · exact Iff.rfl
  · exact Iff.rfl
  · exact Iff.rfl
  · rw [JoinEligible, JoinEligible, find_setReservation_of_ne hj hq]

/-- The declaration that a join of `m` makes of an unused machine. -/
def declaredMachine (m : MadMachine) (info : Fin 10) (id : UInt32 × UInt32) (old : MadMachine) :
    MadMachine :=
  { old with
    attributeType := (propagatedAs m).1
    attributeInfo := some info
    fourVectorParameter := (propagatedAs m).2
    isFourVector := if (propagatedAs m).2 ≠ 0 then true else old.isFourVector
    attrDir := .dec
    used := true
    streamID := id }

/-- The event that a join request raises. -/
def joinEvent (new : Bool) : MrpEvent := if new then .new else .join

theorem joinEvent_silent (new : Bool) : (joinEvent new).Silent := by
  cases new <;> decide

theorem joinPort_eq {info : Fin 10} {new : Bool} {i : Fin 24}
    (helig : JoinEligible t m (t.streamInfoVars info).streamID q) (hi : firstUnused t q = some i) :
    joinPort env m info new t q = (declarationEvent env (t.setMachine q (.slot i)
      ((declaredMachine m info (t.streamInfoVars info).streamID
        (t.machine q (.slot i))).withAppState .VO)) q (.slot i) (joinEvent new)).map Prod.fst := by
  rw [firstUnused] at hi
  rw [joinPort, if_neg helig, getAttributeApp, hi]
  show msrpMadJoinReq env (mrpAttributeInit _ q (.slot i) _ _ info) q (.slot i) new = _
  rw [msrpMadJoinReq, mrpAttributeInit, State.setMachine_setMachine, State.setMachine_machine_self]
  rfl

/-- The cases of a join on one of the other ports. -/
theorem joinPort_cases {info : Fin 10} {new : Bool} (h : joinPort env m info new t q = some t') :
    (¬ JoinEligible t m (t.streamInfoVars info).streamID q ∧ t' = t) ∨
    (JoinEligible t m (t.streamInfoVars info).streamID q ∧ ∃ i, firstUnused t q = some i ∧
      AppOnly q (.slot i) ((t.setMachine q (.slot i)
        ((declaredMachine m info (t.streamInfoVars info).streamID
          (t.machine q (.slot i))).withAppState .VO)).record
            (.madAttrEvent q (.slot i) (joinEvent new))) t') := by
  by_cases helig : JoinEligible t m (t.streamInfoVars info).streamID q
  · refine Or.inr ⟨helig, ?_⟩
    rcases hi : firstUnused t q with _ | i
    · rw [firstUnused] at hi
      rw [joinPort, if_neg helig, getAttributeApp, hi] at h
      simp at h
    · rw [joinPort_eq helig hi, Option.map_eq_some_iff] at h
      obtain ⟨⟨u, r⟩, hu, rfl⟩ := h
      exact ⟨i, rfl, declarationEvent_appOnly hu⟩
  · rw [joinPort, if_pos (not_not.mp helig), Option.some_inj] at h
    exact Or.inl ⟨helig, h.symm⟩

/-- A join is defined on a port if it does not go there or there is an unused machine. -/
theorem joinPort_isSome (env : Env n) (m : MadMachine) (info : Fin 10) (new : Bool) (t : State n)
    (q : Fin n) : (joinPort env m info new t q).isSome ↔
      (JoinEligible t m (t.streamInfoVars info).streamID q → firstUnused t q ≠ none) := by
  by_cases helig : JoinEligible t m (t.streamInfoVars info).streamID q
  · simp only [helig, forall_const]
    rcases hi : firstUnused t q with _ | i
    · have hnone : joinPort env m info new t q = none := by
        rw [firstUnused] at hi
        rw [joinPort, if_neg helig, getAttributeApp, hi]
        rfl
      simp [hnone]
    · rw [joinPort_eq helig hi, declarationEvent]
      obtain ⟨u, hu⟩ := applicant_defined env _ q (.slot i) (joinEvent_silent new)
      rw [hu]
      simp
  · rw [joinPort, if_pos (not_not.mp helig)]
    simp [helig]

/-- What a join of `m` makes of the machines of port `q`. -/
def PortJoined (m : MadMachine) (info : Fin 10) (t t' : State n) (q : Fin n) : Prop :=
  if JoinEligible t m (t.streamInfoVars info).streamID q then
    ∃ i s, firstUnused t q = some i ∧ ∀ x, t'.machine q x =
      if x = .slot i then
        (declaredMachine m info (t.streamInfoVars info).streamID
          (t.machine q (.slot i))).withAppState s
      else t.machine q x
  else ∀ x, t'.machine q x = t.machine q x

/-- What a join of `m` does that goes to the ports `qs`. -/
structure Joined (m : MadMachine) (info : Fin 10) (qs : List (Fin n)) (t t' : State n) : Prop where
  streams : t'.streamInfoVars = t.streamInfoVars
  reservations : t'.reservations = t.reservations
  quiet : Quiet t t'
  log : ∃ l, t'.log = t.log ++ l ∧ ∀ r ∈ l, ∃ q ∈ qs, ∃ x e, r = .madAttrEvent q x e
  outside : ∀ q ∉ qs, ∀ x, t'.machine q x = t.machine q x
  inside : ∀ q ∈ qs, PortJoined m info t t' q

theorem joinPort_joined {info : Fin 10} {new : Bool} (h : joinPort env m info new t q = some t') :
    Joined m info [q] t t' := by
  rcases joinPort_cases h with ⟨helig, rfl⟩ | ⟨helig, i, hi, happ⟩
  · refine ⟨rfl, rfl, Quiet.refl, ⟨[], by simp⟩, fun _ _ _ => rfl, fun q' hq' => ?_⟩
    rw [List.mem_singleton.mp hq', PortJoined, if_neg helig]
    exact fun _ => rfl
  · obtain ⟨s, hs⟩ := happ.machine
    refine ⟨happ.streams, happ.reservations, (Quiet.setMachine.trans Quiet.record).trans happ.quiet,
      ⟨[.madAttrEvent q (.slot i) (joinEvent new)], ?_, ?_⟩, fun q' hq' x => ?_, fun q' hq' => ?_⟩
    · rw [happ.log]
      rfl
    · exact fun r hr => ⟨q, List.mem_singleton_self q, _, _, List.mem_singleton.mp hr⟩
    · have hne : q' ≠ q := fun heq => hq' (List.mem_singleton.mpr heq)
      rw [hs, if_neg fun heq => hne heq.1, State.record_machine, State.setMachine_machine,
        if_neg fun heq => hne heq.1]
    · rw [List.mem_singleton.mp hq', PortJoined, if_pos helig]
      refine ⟨i, s, hi, fun x => ?_⟩
      rw [hs]
      by_cases hx : x = .slot i
      · rw [if_pos ⟨rfl, hx⟩, if_pos hx, State.record_machine, State.setMachine_machine_self]
        rfl
      · rw [if_neg fun heq => hx heq.2, if_neg hx, State.record_machine, State.setMachine_machine,
          if_neg fun heq => hx heq.2]

theorem PortJoined.congr_left {info : Fin 10} (hstreams : t'.streamInfoVars = t.streamInfoVars)
    (hres : t'.reservations = t.reservations) (hsame : ∀ x, t'.machine q x = t.machine q x) :
    PortJoined m info t' t'' q ↔ PortJoined m info t t'' q := by
  have helig : JoinEligible t' m (t.streamInfoVars info).streamID q ↔
      JoinEligible t m (t.streamInfoVars info).streamID q := by
    simp only [JoinEligible, msrpFindReservationByDeclaration, hres]
  have hfirst : firstUnused t' q = firstUnused t q := by simp only [firstUnused, hsame]
  rw [PortJoined, PortJoined, hstreams, hfirst]
  by_cases h : JoinEligible t m (t.streamInfoVars info).streamID q
  · rw [if_pos h, if_pos (helig.mpr h)]
    simp only [hsame]
  · rw [if_neg h, if_neg fun h' => h (helig.mp h')]
    simp only [hsame]

theorem PortJoined.congr_right {info : Fin 10} (hsame : ∀ x, t''.machine q x = t'.machine q x) :
    PortJoined m info t t'' q ↔ PortJoined m info t t' q := by
  simp only [PortJoined, hsame]

/-- A join that goes from port to port. -/
theorem joinPorts_joined {info : Fin 10} {new : Bool} : ∀ {qs : List (Fin n)} {t t' : State n},
    qs.Nodup → Runs.run (joinPort env m info new) t qs = some t' → Joined m info qs t t' := by
  intro qs
  induction qs with
  | nil =>
    intro t t' _ h
    rw [Runs.run_nil, Option.some_inj] at h
    subst h
    exact ⟨rfl, rfl, Quiet.refl, ⟨[], by simp⟩, fun _ _ _ => rfl, by simp⟩
  | cons q qs ih =>
    intro t t' hnodup h
    rw [List.nodup_cons] at hnodup
    obtain ⟨u, hu, hrun⟩ := Runs.run_cons_eq_some.mp h
    have hhead := joinPort_joined hu
    have htail := ih hnodup.2 hrun
    obtain ⟨l, hl, hmem⟩ := hhead.log
    obtain ⟨l', hl', hmem'⟩ := htail.log
    refine ⟨htail.streams.trans hhead.streams, htail.reservations.trans hhead.reservations,
      hhead.quiet.trans htail.quiet, ⟨l ++ l', by rw [hl', hl, List.append_assoc], ?_⟩,
      fun q' hq' x => ?_, fun q' hq' => ?_⟩
    · intro r hr
      rcases List.mem_append.mp hr with hr | hr
      · obtain ⟨q', hq', hx⟩ := hmem r hr
        exact ⟨q', by rw [List.mem_singleton.mp hq']; exact List.mem_cons_self, hx⟩
      · obtain ⟨q', hq', hx⟩ := hmem' r hr
        exact ⟨q', List.mem_cons_of_mem q hq', hx⟩
    · rw [List.mem_cons, not_or] at hq'
      rw [htail.outside q' hq'.2, hhead.outside q' (by simpa using hq'.1)]
    · rcases List.mem_cons.mp hq' with rfl | hq'
      · -- the ports that come later leave this one alone
        exact (PortJoined.congr_right fun x => htail.outside _ hnodup.1 x).mpr
          (hhead.inside _ (List.mem_singleton_self _))
      · have hne : q' ∉ [q] := fun heq => hnodup.1 (List.mem_singleton.mp heq ▸ hq')
        exact (PortJoined.congr_left hhead.streams hhead.reservations (hhead.outside q' hne)).mp
          (htail.inside q' hq')

theorem joinPorts_isSome (env : Env n) (m : MadMachine) (info : Fin 10) (new : Bool) :
    ∀ {qs : List (Fin n)} {t : State n}, qs.Nodup →
      ((Runs.run (joinPort env m info new) t qs).isSome ↔ ∀ q ∈ qs,
        JoinEligible t m (t.streamInfoVars info).streamID q → firstUnused t q ≠ none) := by
  intro qs
  induction qs with
  | nil => simp
  | cons q qs ih =>
    intro t hnodup
    rw [List.nodup_cons] at hnodup
    rw [List.forall_mem_cons, ← joinPort_isSome env m info new t q, Runs.run_cons]
    rcases hu : joinPort env m info new t q with _ | u
    · simp
    · have hjoined := joinPort_joined hu
      have htail := ih (t := u) hnodup.2
      rw [Option.bind_some, htail]
      simp only [Option.isSome_some, true_and]
      refine forall₂_congr fun q' hq' => ?_
      have hne : q' ∉ [q] := fun heq => hnodup.1 (List.mem_singleton.mp heq ▸ hq')
      simp only [JoinEligible, msrpFindReservationByDeclaration, firstUnused, hjoined.streams,
        hjoined.reservations, hjoined.outside q' hne]

/-- The ports that a join goes to. -/
def otherPorts (p : Fin n) : List (Fin n) := (List.finRange n).filter (· ≠ p)

theorem mem_otherPorts : q ∈ otherPorts p ↔ q ≠ p := by
  rw [otherPorts, List.mem_filter, decide_eq_true_eq]
  exact and_iff_right (List.mem_finRange q)

theorem otherPorts_nodup : (otherPorts p).Nodup := (List.nodup_finRange n).filter _

theorem msrpMapJoinPropagate_joined {i : Fin 10} {new : Bool} (hstream : m.attributeType.IsStream)
    (hinfo : m.attributeInfo = some i) (h : msrpMapJoinPropagate env t p m new = some t') :
    Joined m i (otherPorts p) t t' := by
  rw [msrpMapJoinPropagate, if_neg hstream, hinfo] at h
  exact joinPorts_joined otherPorts_nodup h

theorem msrpMapJoinPropagate_isSome {i : Fin 10} (env : Env n) (t : State n) (p : Fin n)
    (new : Bool) (hstream : m.attributeType.IsStream) (hinfo : m.attributeInfo = some i) :
    (msrpMapJoinPropagate env t p m new).isSome ↔ ∀ q, q ≠ p →
      JoinEligible t m (t.streamInfoVars i).streamID q → firstUnused t q ≠ none := by
  rw [msrpMapJoinPropagate, if_neg hstream, hinfo]
  refine (joinPorts_isSome env m i new otherPorts_nodup).trans ?_
  simp only [mem_otherPorts]

/-! ### The registrar -/

/-- From `t` to `t'` only reservations have changed. -/
structure ReservationsOnly (t t' : State n) : Prop where
  ports : t'.ports = t.ports
  streams : t'.streamInfoVars = t.streamInfoVars
  log : t'.log = t.log

theorem ReservationsOnly.refl : ReservationsOnly t t := ⟨rfl, rfl, rfl⟩

theorem ReservationsOnly.machine (h : ReservationsOnly t t') : t'.machine = t.machine := by
  funext q x
  rw [State.machine, h.ports]
  rfl

theorem ReservationsOnly.quiet (h : ReservationsOnly t t') : Quiet t t' :=
  ⟨fun q => by rw [h.ports], fun q => by rw [h.ports], [], by rw [h.log, List.append_nil], by simp⟩

theorem msrpMadJoinInd_reservationsOnly (h : msrpMadJoinInd t p m = some (t', r)) :
    ReservationsOnly t t' := by
  rcases msrpMadJoinInd_cases h with ⟨-, rfl, -⟩ | ⟨-, -, rfl, -⟩ |
    ⟨i, -, -, -, ⟨rfl, -⟩ | ⟨-, j, -, rfl⟩⟩
  · exact ReservationsOnly.refl
  · exact ReservationsOnly.refl
  · exact ReservationsOnly.refl
  · exact ⟨rfl, rfl, rfl⟩

theorem msrpMadLeaveIndication_reservationsOnly (h : msrpMadLeaveIndication t p m = some t') :
    ReservationsOnly t t' := by
  rw [msrpMadLeaveIndication] at h
  split at h
  · exact Option.some_inj.mp h ▸ ReservationsOnly.refl
  · split at h
    · split at h
      · exact Option.some_inj.mp h ▸ ReservationsOnly.refl
      · simp at h
    · split at h
      · exact Option.some_inj.mp h ▸ ReservationsOnly.refl
      · rw [Option.some_inj] at h
        exact h ▸ ⟨rfl, rfl, rfl⟩

/-- A leave changes applicant states only. -/
theorem msrpMadLeavePropagation_sameCore (h : msrpMadLeavePropagation env t p m = some t') :
    SameCore t t' ∧ Quiet t t' := by
  rw [msrpMadLeavePropagation] at h
  split at h
  · exact Option.some_inj.mp h ▸ ⟨SameCore.refl, Quiet.refl⟩
  · split at h
    · exact Option.some_inj.mp h ▸ ⟨SameCore.refl, Quiet.refl⟩
    · next i _ =>
      obtain ⟨u, hu, hcore, hquiet, -⟩ := leavePorts_spec env (t.streamInfoVars i).streamID
        (p :: (List.finRange n).filter (· ≠ p)) t
      have heq : u = t' := Option.some_inj.mp (hu.symm.trans h)
      exact heq ▸ ⟨hcore, hquiet⟩

theorem IsJoin.not_isLeave {action : Action} (h : IsJoin action) : ¬ IsLeave action := by
  rintro hl
  rcases h with h | h <;> rw [IsLeave, h] at hl <;> exact absurd hl (by decide)

/-- The cases of the indications. -/
theorem registrarIndication_cases {action : Action}
    (h : registrarIndication env t p ref action = some t') :
    (IsJoin action ∧ ∃ u s, msrpMadJoinInd t p (t.machine p ref) = some (u, s) ∧
      ((s < 0 ∧ t' = u.countRegFailure p) ∨
        (0 ≤ s ∧ ∃ new, msrpMapJoinPropagate env u p (t.machine p ref) new = some t'))) ∨
    (IsLeave action ∧ ∃ u, msrpMadLeaveIndication t p (t.machine p ref) = some u ∧
      msrpMadLeavePropagation env u p (t.machine p ref) = some t') ∨
    (¬ IsJoin action ∧ ¬ IsLeave action ∧ t' = t) := by
  rw [registrarIndication] at h
  by_cases hj : IsJoin action
  · refine Or.inl ⟨hj, ?_⟩
    rw [if_pos hj] at h
    rcases hind : msrpMadJoinInd t p (t.machine p ref) with _ | ⟨u, s⟩
    · simp only [hind, reduceCtorEq] at h
    · simp only [hind] at h
      refine ⟨u, s, rfl, ?_⟩
      by_cases hs : s < 0
      · rw [if_pos hs, Option.some_inj] at h
        exact Or.inl ⟨hs, h.symm⟩
      · rw [if_neg hs] at h
        exact Or.inr ⟨not_lt.mp hs, _, h⟩
  · rw [if_neg hj] at h
    by_cases hl : IsLeave action
    · rw [if_pos hl, Option.bind_eq_some_iff] at h
      exact Or.inr (Or.inl ⟨hl, h⟩)
    · rw [if_neg hl, Option.some_inj] at h
      exact Or.inr (Or.inr ⟨hj, hl, h.symm⟩)

/-- A join goes to the other ports. -/
theorem msrpMapJoinPropagate_elsewhere {new : Bool}
    (h : msrpMapJoinPropagate env t p m new = some t') :
    (∃ l, t'.log = t.log ++ l ∧ ∀ r ∈ l, ∃ q, q ≠ p ∧ ∃ x e, r = .madAttrEvent q x e) ∧
      t'.machine p = t.machine p := by
  have hsame : t = t' → (∃ l, t'.log = t.log ++ l ∧
      ∀ r ∈ l, ∃ q, q ≠ p ∧ ∃ x e, r = .madAttrEvent q x e) ∧ t'.machine p = t.machine p := by
    rintro rfl
    exact ⟨⟨[], (List.append_nil _).symm, fun r hr => absurd hr List.not_mem_nil⟩, rfl⟩
  rcases hi : m.attributeInfo with _ | i
  · rw [msrpMapJoinPropagate, hi] at h
    simp only [ite_self, Option.some_inj] at h
    exact hsame h
  · by_cases hd : m.attributeType = .domainVector
    · rw [msrpMapJoinPropagate, if_pos hd, Option.some_inj] at h
      exact hsame h
    · have hjoined := msrpMapJoinPropagate_joined hd hi h
      obtain ⟨l, hl, hmem⟩ := hjoined.log
      refine ⟨⟨l, hl, fun r hr => ?_⟩, ?_⟩
      · obtain ⟨q, hq, hr⟩ := hmem r hr
        exact ⟨q, mem_otherPorts.mp hq, hr⟩
      · funext x
        exact hjoined.outside p (fun hmem => mem_otherPorts.mp hmem rfl) x

theorem msrpMapJoinPropagate_quiet {new : Bool} (h : msrpMapJoinPropagate env t p m new = some t') :
    Quiet t t' := by
  rcases hi : m.attributeInfo with _ | i
  · rw [msrpMapJoinPropagate, hi] at h
    simp only [ite_self, Option.some_inj] at h
    exact h ▸ Quiet.refl
  · by_cases hd : m.attributeType = .domainVector
    · rw [msrpMapJoinPropagate, if_pos hd, Option.some_inj] at h
      exact h ▸ Quiet.refl
    · exact (msrpMapJoinPropagate_joined hd hi h).quiet

theorem countRegFailure_quiet : Quiet t (t.countRegFailure p) := by
  refine ⟨fun q => ?_, fun q => ?_, [], (List.append_nil _).symm, by simp⟩
  all_goals
    by_cases hq : q = p
    · rw [hq, State.countRegFailure, State.setPort_ports_self]
    · rw [State.countRegFailure, State.setPort_ports_of_ne hq]

theorem registrarIndication_quiet {action : Action}
    (h : registrarIndication env t p ref action = some t') : Quiet t t' := by
  rcases registrarIndication_cases h with ⟨-, u, s, hind, hcase⟩ | ⟨-, u, hind, hprop⟩ | ⟨-, -, rfl⟩
  · have hquiet := (msrpMadJoinInd_reservationsOnly hind).quiet
    rcases hcase with ⟨-, rfl⟩ | ⟨-, new, hprop⟩
    · exact hquiet.trans countRegFailure_quiet
    · exact hquiet.trans (msrpMapJoinPropagate_quiet hprop)
  · exact (msrpMadLeaveIndication_reservationsOnly hind).quiet.trans
      (msrpMadLeavePropagation_sameCore hprop).2
  · exact Quiet.refl

/-- The cases of the registrar part. -/
theorem registrar_cases (h : registrar env t p ref event = some t') :
    ((registrarEntry (t.machine p ref).regState event).state = .invalid ∧ t' = t) ∨
    ((registrarEntry (t.machine p ref).regState event).state ≠ .invalid ∧
      ∃ u, registrarIndication env t p ref
          (registrarEntry (t.machine p ref).regState event).action = some u ∧
        t' = (registrarTimer u p
          (registrarEntry (t.machine p ref).regState event).action).setRegState p ref
            (registrarEntry (t.machine p ref).regState event).state) := by
  rw [registrar] at h
  by_cases hs : (registrarEntry (t.machine p ref).regState event).state = .invalid
  · rw [if_pos hs, Option.some_inj] at h
    exact Or.inl ⟨hs, h.symm⟩
  · rw [if_neg hs, Option.map_eq_some_iff] at h
    obtain ⟨u, hu, heq⟩ := h
    exact Or.inr ⟨hs, u, hu, heq.symm⟩

theorem madAttrEvent_reg (hreg : (t.machine p ref).attrDir = .reg)
    (h : madAttrEvent env t p ref event = some (t', r)) :
    ∃ u, registrar env (t.record (.madAttrEvent p ref event)) p ref event = some u ∧
      applicant env u p ref event = some (t', r) := by
  rw [madAttrEvent, if_neg (by rw [hreg]; decide), Option.bind_eq_some_iff] at h
  exact h

/-- A call is the first thing that it adds to the log. -/
theorem madAttrEvent_log (h : madAttrEvent env t p ref event = some (t', r)) :
    ∃ l, t'.log = t.log ++ .madAttrEvent p ref event :: l := by
  by_cases hdir : (t.machine p ref).attrDir = .dec
  · rw [madAttrEvent_dec hdir] at h
    exact ⟨[], (declarationEvent_appOnly h).log⟩
  · rw [madAttrEvent, if_neg hdir, Option.bind_eq_some_iff] at h
    obtain ⟨u, hu, happ⟩ := h
    have hlog := (applicant_appOnly happ).log
    rcases registrar_cases hu with ⟨-, rfl⟩ | ⟨-, v, hv, rfl⟩
    · exact ⟨[], hlog⟩
    · obtain ⟨l, hl, -⟩ := (registrarIndication_quiet hv).log
      have htimer : ∀ (v : State n) (action : Action),
          ∃ l', (registrarTimer v p action).log = v.log ++ l' := by
        intro v action
        rw [registrarTimer]
        split
        · exact ⟨_, rfl⟩
        · exact ⟨[], (List.append_nil _).symm⟩
      obtain ⟨l', hl'⟩ := htimer v (registrarEntry
        ((t.record (.madAttrEvent p ref event)).machine p ref).regState event).action
      refine ⟨l ++ l', ?_⟩
      rw [hlog]
      show (registrarTimer v p _).log = _
      rw [hl', hl, State.record_log, List.append_assoc, List.append_assoc, List.singleton_append]

theorem MadMachine.eq_withAppState {a b : MadMachine} (h : a.core = b.core) :
    a = b.withAppState a.appState := by
  have hback : ∀ c : MadMachine, c = c.core.withAppState c.appState := fun _ => rfl
  rw [hback a, h]
  rfl

/-- The indications for a machine of a stream: what they do to the reservations, and that they
leave the machine alone. -/
theorem registrarIndication_stream {action : Action} {i : Fin 10}
    (hstream : (t.machine p ref).attributeType.IsStream)
    (hinfo : (t.machine p ref).attributeInfo = some i)
    (h : registrarIndication env t p ref action = some t') :
    t'.streamInfoVars = t.streamInfoVars ∧
      (t'.machine p ref).core = (t.machine p ref).core ∧
      (IsJoin action → ∃ u, msrpMadJoinInd t p (t.machine p ref) = some (u, 1) ∧
        t'.reservations = u.reservations) ∧
      (IsLeave action → ∃ u, msrpMadLeaveIndication t p (t.machine p ref) = some u ∧
        t'.reservations = u.reservations) ∧
      (¬ IsJoin action → ¬ IsLeave action → t'.reservations = t.reservations) := by
  rcases registrarIndication_cases h with ⟨hj, u, s, hind, hcase⟩ | ⟨hl, u, hind, hprop⟩ | ⟨hj, hl, rfl⟩
  · have hres := msrpMadJoinInd_reservationsOnly hind
    -- a stream's join indication does not fail
    have hs : s = 1 := by
      rcases msrpMadJoinInd_cases hind with ⟨hd, -⟩ | ⟨-, hnone, -⟩ | ⟨j, -, -, hs, -⟩
      · exact absurd hd hstream
      · rw [hinfo] at hnone
        simp at hnone
      · exact hs
    subst hs
    rcases hcase with ⟨hneg, -⟩ | ⟨-, new, hprop⟩
    · omega
    · have hjoined := msrpMapJoinPropagate_joined hstream hinfo hprop
      have hsame : t'.machine p ref = t.machine p ref := by
        rw [hjoined.outside p (fun hmem => mem_otherPorts.mp hmem rfl), hres.machine]
      exact ⟨hjoined.streams.trans hres.streams, by rw [hsame],
        fun _ => ⟨u, hind, hjoined.reservations⟩, fun hl => absurd hl hj.not_isLeave,
        fun hnj => absurd hj hnj⟩
  · have hres := msrpMadLeaveIndication_reservationsOnly hind
    obtain ⟨hcore, -⟩ := msrpMadLeavePropagation_sameCore hprop
    refine ⟨hcore.streams.trans hres.streams, ?_, fun hj => absurd hl hj.not_isLeave,
      fun _ => ⟨u, hind, hcore.reservations⟩, fun _ hnl => absurd hl hnl⟩
    rw [hcore.core, hres.machine]
  · exact ⟨rfl, rfl, fun h => absurd h hj, fun h => absurd h hl, fun _ _ => rfl⟩

theorem registrarTimer_machine {action : Action} : (registrarTimer t p action).machine = t.machine := by
  rw [registrarTimer]
  split
  · rw [State.record_machine]
    funext q x
    by_cases hq : q = p
    · rw [hq, State.machine, State.setPort_ports_self]
      rfl
    · rw [State.machine, State.setPort_ports_of_ne hq]
      rfl
  · rfl

theorem registrarTimer_tables (t : State n) (p : Fin n) (action : Action) :
    (registrarTimer t p action).streamInfoVars = t.streamInfoVars ∧
      (registrarTimer t p action).reservations = t.reservations := by
  rw [registrarTimer]
  split <;> exact ⟨rfl, rfl⟩

/-- `mad_attr_event` for a registration of a stream: the machine's registrar state, and the
reservations. -/
theorem madAttrEvent_stream {i : Fin 10} (hreg : (t.machine p ref).attrDir = .reg)
    (hstream : (t.machine p ref).attributeType.IsStream)
    (hinfo : (t.machine p ref).attributeInfo = some i)
    (h : madAttrEvent env t p ref event = some (t', r)) :
    let entry := registrarEntry (t.machine p ref).regState event
    let m := t.machine p ref
    let called := t.record (.madAttrEvent p ref event)
    t'.streamInfoVars = t.streamInfoVars ∧
      (∃ s, t'.machine p ref =
        (m.withRegState (if entry.state = .invalid then m.regState else entry.state)).withAppState s) ∧
      (entry.state ≠ .invalid → IsJoin entry.action →
        ∃ u, msrpMadJoinInd called p m = some (u, 1) ∧ t'.reservations = u.reservations) ∧
      (entry.state ≠ .invalid → IsLeave entry.action →
        ∃ u, msrpMadLeaveIndication called p m = some u ∧ t'.reservations = u.reservations) ∧
      ((entry.state ≠ .invalid → ¬ IsJoin entry.action ∧ ¬ IsLeave entry.action) →
        t'.reservations = t.reservations) := by
  intro entry m called
  obtain ⟨u, hu, happ⟩ := madAttrEvent_reg hreg h
  have happ' := applicant_appOnly happ
  obtain ⟨s, hs⟩ := happ'.machine
  have hself : t'.machine p ref = (u.machine p ref).withAppState s := by
    rw [hs, if_pos (And.intro rfl rfl)]
  rcases registrar_cases hu with ⟨hinv, rfl⟩ | ⟨hinv, v, hv, rfl⟩
  · have hinv' : entry.state = .invalid := hinv
    refine ⟨happ'.streams, ⟨s, ?_⟩, fun hne => absurd hinv hne, fun hne => absurd hinv hne,
      fun _ => happ'.reservations⟩
    rw [hself, if_pos hinv']
    rfl
  · have hinv' : entry.state ≠ .invalid := hinv
    obtain ⟨hstreams, hcore, hjoin, hleave, hnone⟩ := registrarIndication_stream
      (t := called) hstream hinfo hv
    have htables := registrarTimer_tables v p entry.action
    have hres : t'.reservations = v.reservations := happ'.reservations.trans htables.2
    refine ⟨happ'.streams.trans (htables.1.trans hstreams), ⟨s, ?_⟩, fun _ hj => ?_, fun _ hl => ?_,
      fun hno => hres.trans (hnone (hno hinv').1 (hno hinv').2)⟩
    · rw [hself, if_neg hinv', State.setRegState, State.setMachine_machine_self,
        registrarTimer_machine, MadMachine.eq_withAppState hcore]
      rfl
    · obtain ⟨w, hw, hwres⟩ := hjoin hj
      exact ⟨w, hw, hres.trans hwres⟩
    · obtain ⟨w, hw, hwres⟩ := hleave hl
      exact ⟨w, hw, hres.trans hwres⟩

/-! ### When an event is defined -/

/-- A join for a stream finds what it needs: a reservation or a place for one, and an unused
machine on every port that it goes to.  For a Listener these are the ports with a reservation of
the Talker. -/
def JoinRoom (t : State n) (p : Fin n) (ty : AttributeType) (id : UInt32 × UInt32) : Prop :=
  (msrpFindReservationByDeclaration t id p ty.index ≠ none ∨ msrpGetFreeReservation t ≠ none) ∧
  ∀ q, q ≠ p → ¬ (ty = .listener ∧
    msrpFindReservationByDeclaration t id q AttributeType.talkerAdvertise.index = none) →
      firstUnused t q ≠ none

theorem msrpMadJoinInd_isSome {i : Fin 10} (t : State n) (p : Fin n)
    (hstream : m.attributeType.IsStream) (hinfo : m.attributeInfo = some i) :
    (msrpMadJoinInd t p m).isSome ↔
      (msrpFindReservationByDeclaration t (t.streamInfoVars i).streamID p m.attributeType.index ≠ none ∨
        msrpGetFreeReservation t ≠ none) := by
  rw [msrpMadJoinInd, if_neg hstream, hinfo]
  dsimp only
  rcases msrpFindReservationByDeclaration t (t.streamInfoVars i).streamID p
    m.attributeType.index with _ | j
  · simp only [msrpMakeReservation, Option.isSome_map, ne_eq, not_true_eq_false, false_or]
    exact Option.isSome_iff_ne_none
  · simp

theorem registrarIndication_isSome {action : Action} {i : Fin 10} (env : Env n) (t : State n)
    (hstream : (t.machine p ref).attributeType.IsStream)
    (hinfo : (t.machine p ref).attributeInfo = some i) :
    (registrarIndication env t p ref action).isSome ↔
      (IsJoin action → JoinRoom t p (t.machine p ref).attributeType (t.streamInfoVars i).streamID) := by
  rw [registrarIndication]
  by_cases hj : IsJoin action
  · simp only [hj, if_true, forall_const]
    have hind := msrpMadJoinInd_isSome t p hstream hinfo
    rw [JoinRoom, ← hind]
    rcases heq : msrpMadJoinInd t p (t.machine p ref) with _ | ⟨u, s⟩
    · simp
    · -- the indication has succeeded, and the join goes on to the other ports
      have hs : ¬ s < 0 := by
        rcases msrpMadJoinInd_cases heq with ⟨hd, -⟩ | ⟨-, hnone, -⟩ | ⟨j, -, -, hs, -⟩
        · exact absurd hd hstream
        · rw [hinfo] at hnone
          simp at hnone
        · omega
      have hres := msrpMadJoinInd_reservationsOnly heq
      simp only [if_neg hs, Option.isSome_some, true_and]
      rw [msrpMapJoinPropagate_isSome env u p _ hstream hinfo]
      refine forall₂_congr fun q hq => ?_
      rw [hres.streams, joinEligible_joinInd heq hq, JoinEligible]
      simp only [firstUnused, hres.machine]
  · simp only [hj, if_false, false_imp_iff, iff_true]
    split
    · rw [msrpMadLeaveIndication, if_neg hstream, hinfo]
      dsimp only
      have hprop : ∀ u : State n,
          (msrpMadLeavePropagation env u p (t.machine p ref)).isSome = true := by
        intro u
        rw [msrpMadLeavePropagation, if_neg hstream, hinfo]
        obtain ⟨t', ht, -⟩ := leavePorts_spec env (u.streamInfoVars i).streamID
          (p :: (List.finRange n).filter (· ≠ p)) u
        show (Runs.run _ u _).isSome = true
        rw [ht]
        rfl
      split <;> exact hprop _
    · rfl

/-- An event in front of `MRP_EVENT_TX`, for a registration of a stream, is defined if a join that
it raises finds what it needs. -/
theorem madAttrEvent_isSome {i : Fin 10} (env : Env n) (t : State n) (hsilent : event.Silent)
    (hreg : (t.machine p ref).attrDir = .reg)
    (hstream : (t.machine p ref).attributeType.IsStream)
    (hinfo : (t.machine p ref).attributeInfo = some i) :
    (madAttrEvent env t p ref event).isSome ↔
      ((registrarEntry (t.machine p ref).regState event).state ≠ .invalid →
        IsJoin (registrarEntry (t.machine p ref).regState event).action →
          JoinRoom t p (t.machine p ref).attributeType (t.streamInfoVars i).streamID) := by
  rw [madAttrEvent, if_neg (by rw [hreg]; exact fun h => nomatch h)]
  have happ : ∀ u : State n, (applicant env u p ref event).isSome = true := by
    intro u
    obtain ⟨t', ht⟩ := applicant_defined env u p ref hsilent
    rw [ht]
    rfl
  have hbind : ∀ o : Option (State n),
      (o.bind fun u => applicant env u p ref event).isSome = o.isSome := by
    intro o
    rcases o with _ | u
    · rfl
    · exact happ u
  rw [hbind, registrar, State.record_machine]
  by_cases hinv : (registrarEntry (t.machine p ref).regState event).state = .invalid
  · simp [hinv]
  · rw [if_neg hinv, Option.isSome_map]
    simp only [ne_eq, hinv, not_false_eq_true, forall_const]
    exact registrarIndication_isSome env (t.record (.madAttrEvent p ref event)) hstream hinfo

end Msrp
