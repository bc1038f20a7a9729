/-
What the events of machines leave alone.

`EventFrame R` says of a relation between states that it is kept by everything that the
registrar of a machine does: writing a machine, counting a failure, starting a timer, writing
the reservations, noting a call, and passing a Join or a Leave to a declaration.  Then it is
kept by `mad_attr_event` and by `mad_event` for every event for which the applicant keeps it:

* `EventFrame.madAttrEvent` — an event for one machine;
* `EventFrame.madEvent` — an event for all the machines of a participant;
* `EventFrame.madParticipantEvent` — an event for the participant, if the writes of the LeaveAll
  machine keep the relation too;
* `keepsEvent_of_primitive` — the applicant keeps a relation that does not look at the
  machines and at the send buffer.
-/
import AvbSwitch.MsrpFrames
import AvbSwitch.MsrpService

namespace Msrp

variable {n : ℕ} {env : Env n} {R : State n → State n → Prop} {t t' u : State n} {p q : Fin n}
  {ref : MachineRef} {m : MadMachine} {e : MrpEvent} {r : ℤ}

/-- The applicant keeps the relation at an event. -/
def KeepsEvent (env : Env n) (R : State n → State n → Prop) (e : MrpEvent) : Prop :=
  ∀ {t t' : State n} {p : Fin n} {ref : MachineRef} {r : ℤ},
    applicant env t p ref e = some (t', r) → R t t'

/-- The record is of a call for machines, or of the start of a timer. -/
def Record.isEvent : Record n → Bool
  | .madAttrEvent .. | .madEvent .. | .startLeaveTimer .. => true
  | _ => false

/-- What the registrar does keeps the relation. -/
structure EventFrame (env : Env n) (R : State n → State n → Prop) : Prop where
  refl : ∀ t, R t t
  trans : ∀ {t u v}, R t u → R u v → R t v
  machine : ∀ t p ref m, R t (t.setMachine p ref m)
  failure : ∀ t p, R t (t.countRegFailure p)
  timer : ∀ t p action, R t (registrarTimer t p action)
  reservations : ∀ {t t'}, ReservationsOnly t t' → R t t'
  record : ∀ t (x : Record n), x.isEvent = true → R t (t.record x)
  silent : ∀ {e}, e.Silent → KeepsEvent env R e

namespace EventFrame

theorem declarationEvent (hR : EventFrame env R) (he : KeepsEvent env R e)
    (h : Msrp.declarationEvent env t p ref e = some (t', r)) : R t t' :=
  hR.trans (hR.record t (.madAttrEvent p ref e) rfl) (he h)

/-- What every turn of a loop keeps, the loop keeps. -/
theorem run {α : Type*} {step : State n → α → Option (State n)} (hR : EventFrame env R)
    (hstep : ∀ {t t' a}, step t a = some t' → R t t') {as : List α}
    (h : Runs.run step t as = some t') : R t t' :=
  Runs.run_invariant (I := fun u => R t u) (fun hI hs => hR.trans hI (hstep hs)) (hR.refl t) h

/-! ### The registrar -/

theorem leavePort {id : UInt32 × UInt32} (hR : EventFrame env R)
    (h : Msrp.leavePort env id t q = some t') : R t t' := by
  rw [Msrp.leavePort] at h
  cases hfind : findMatchingDecAttributeByStreamInfo t id q with
  | none =>
    rw [hfind] at h
    rw [← Option.some_inj.mp h]
    exact hR.refl t
  | some i =>
    rw [hfind] at h
    obtain ⟨⟨w, s⟩, hw, rfl⟩ := Option.map_eq_some_iff.mp h
    exact hR.declarationEvent (hR.silent (by decide)) hw

theorem joinPort {info : Fin 10} {new : Bool} (hR : EventFrame env R)
    (h : Msrp.joinPort env m info new t q = some t') : R t t' := by
  by_cases helig : JoinEligible t m (t.streamInfoVars info).streamID q
  · cases hi : firstUnused t q with
    | none =>
      have hsome := (joinPort_isSome env m info new t q).mp (by rw [h]; rfl) helig
      exact absurd hi hsome
    | some i =>
      rw [joinPort_eq helig hi] at h
      obtain ⟨⟨w, s⟩, hw, rfl⟩ := Option.map_eq_some_iff.mp h
      exact hR.trans (hR.machine t q (.slot i) _)
        (hR.declarationEvent (hR.silent (joinEvent_silent new)) hw)
  · rw [Msrp.joinPort, if_pos (not_not.mp helig)] at h
    rw [← Option.some_inj.mp h]
    exact hR.refl t

theorem leavePropagation (hR : EventFrame env R)
    (h : msrpMadLeavePropagation env t q m = some t') : R t t' := by
  rw [msrpMadLeavePropagation] at h
  split at h
  · rw [← Option.some_inj.mp h]
    exact hR.refl t
  · split at h
    · rw [← Option.some_inj.mp h]
      exact hR.refl t
    · exact hR.run (fun hs => hR.leavePort hs) h

theorem joinPropagate {new : Bool} (hR : EventFrame env R)
    (h : msrpMapJoinPropagate env t q m new = some t') : R t t' := by
  rw [msrpMapJoinPropagate] at h
  split at h
  · rw [← Option.some_inj.mp h]
    exact hR.refl t
  · split at h
    · rw [← Option.some_inj.mp h]
      exact hR.refl t
    · exact hR.run (fun hs => hR.joinPort hs) h

theorem registrarIndication {action : Action} (hR : EventFrame env R)
    (h : Msrp.registrarIndication env t q ref action = some t') : R t t' := by
  rcases registrarIndication_cases h with ⟨-, w, s, hind, hcase⟩ | ⟨-, w, hind, hprop⟩ | ⟨-, -, rfl⟩
  · have hres := hR.reservations (msrpMadJoinInd_reservationsOnly hind)
    rcases hcase with ⟨-, rfl⟩ | ⟨-, new, hprop⟩
    · exact hR.trans hres (hR.failure w q)
    · exact hR.trans hres (hR.joinPropagate hprop)
  · exact hR.trans (hR.reservations (msrpMadLeaveIndication_reservationsOnly hind))
      (hR.leavePropagation hprop)
  · exact hR.refl _

theorem registrar (hR : EventFrame env R) (h : Msrp.registrar env t q ref e = some t') :
    R t t' := by
  rcases registrar_cases h with ⟨-, rfl⟩ | ⟨-, z, hz, rfl⟩
  · exact hR.refl _
  · exact hR.trans (hR.trans (hR.registrarIndication hz) (hR.timer z q _)) (hR.machine _ q ref _)

/-! ### Machines and participants -/

/-- An event of a machine is its registrar and then its applicant. -/
theorem madAttrEvent_split (hR : EventFrame env R)
    (h : Msrp.madAttrEvent env t q ref e = some (t', r)) :
    ∃ w, R t w ∧ applicant env w q ref e = some (t', r) := by
  by_cases hdir : (t.machine q ref).attrDir = .dec
  · rw [madAttrEvent_dec hdir] at h
    exact ⟨_, hR.record t (.madAttrEvent q ref e) rfl, h⟩
  · rw [Msrp.madAttrEvent, if_neg hdir] at h
    obtain ⟨w, hw, happ⟩ := Option.bind_eq_some_iff.mp h
    exact ⟨w, hR.trans (hR.record t (.madAttrEvent q ref e) rfl) (hR.registrar hw), happ⟩

theorem madAttrEvent (hR : EventFrame env R) (he : KeepsEvent env R e)
    (h : Msrp.madAttrEvent env t q ref e = some (t', r)) : R t t' := by
  obtain ⟨w, hw, happ⟩ := hR.madAttrEvent_split h
  exact hR.trans hw (he happ)

/-- The loop over machines, if `next_to_process` does not matter either. -/
theorem machineLoop (hR : EventFrame env R) (he : KeepsEvent env R e)
    (hnext : ∀ t p i, R t (t.setPort p { t.ports p with nextToProcess := i }))
    {selected : MadMachine → Bool} {is : List (Fin 24)}
    (h : Msrp.machineLoop env q selected e is t = some t') : R t t' := by
  induction is generalizing t with
  | nil =>
    rw [← Option.some_inj.mp h]
    exact hR.refl t
  | cons i is ih =>
    rw [Msrp.machineLoop] at h
    split at h
    · cases hev : Msrp.madAttrEvent env t q (.slot i) e with
      | none =>
        rw [hev] at h
        cases h
      | some w =>
        rw [hev] at h
        have hfirst := hR.madAttrEvent he hev
        dsimp only at h
        split at h
        · rw [← Option.some_inj.mp h]
          exact hR.trans hfirst (hnext w.1 q i)
        · exact hR.trans hfirst (ih h)
    · exact ih h

theorem madEvent (hR : EventFrame env R) (he : KeepsEvent env R e)
    (hnext : ∀ t p i, R t (t.setPort p { t.ports p with nextToProcess := i }))
    (h : Msrp.madEvent env t q e = some t') : R t t' :=
  hR.trans (hR.record t (.madEvent q e) rfl) (hR.machineLoop he hnext h)

/-- What `mad_participant_event` does after it has been called: the machines get
`MRP_EVENT_R_LA`, to which the applicant sends nothing. -/
theorem madParticipantEvent (hR : EventFrame env R)
    (hnext : ∀ t p i, R t (t.setPort p { t.ports p with nextToProcess := i }))
    (hraise : ∀ t p, R t (t.setPort p { t.ports p with leaveall := true }))
    (htimer : ∀ t p action, R t (leaveallTimerAction t p action))
    (hreq : ∀ t p, R t (mrpReqTxOpportunity t p))
    (hstate : ∀ t p s, R t (t.setPort p { t.ports p with leaveallState := s }))
    (h : Msrp.madParticipantEvent env t q e = some t') :
    R (t.record (.madParticipantEvent q e)) t' := by
  rw [Msrp.madParticipantEvent] at h
  dsimp only at h
  split at h
  · rw [← Option.some_inj.mp h]
    exact hR.refl _
  · obtain ⟨w, hw, rfl⟩ := Option.map_eq_some_iff.mp h
    have hsent : R (t.record (.madParticipantEvent q e)) w := by
      split at hw
      · exact hR.trans (hraise _ q) (hR.madEvent (hR.silent (by decide)) hnext hw)
      · rw [← Option.some_inj.mp hw]
        exact hR.refl _
    have hrequested : ∀ (c : Prop) [Decidable c] (v : State n),
        R v (if c then mrpReqTxOpportunity v q else v) := by
      intro c _ v
      split
      · exact hreq v q
      · exact hR.refl v
    exact hR.trans (hR.trans (hR.trans hsent (htimer w q _)) (hrequested _ _)) (hstate _ q _)

end EventFrame

/-! ### The applicant -/

theorem keeps_finish (R : State n → State n → Prop) (htrans : ∀ {t u v}, R t u → R u v → R t v)
    (hmachine : ∀ t p ref m, R t (t.setMachine p ref m))
    (hreq : ∀ t p, R t (mrpReqTxOpportunity t p)) {action : Action} {s : ApplicantState} :
    R t ((if action &&& Action.reqTxMask ≠ 0 then mrpReqTxOpportunity t q
      else t).setAppState q ref s) := by
  split
  · exact htrans (hreq t q) (hmachine _ q ref _)
  · exact hmachine t q ref _

/-- The applicant writes its machine, the send buffer and the join timer. -/
theorem keepsEvent_of_primitive (hrefl : ∀ t, R t t)
    (htrans : ∀ {t u v}, R t u → R u v → R t v)
    (hmachine : ∀ t p ref m, R t (t.setMachine p ref m))
    (hreq : ∀ t p, R t (mrpReqTxOpportunity t p))
    (hbuf : ∀ t p buf ptr, R t (t.setPort p { t.ports p with sendBuf := buf, sendPtr := ptr })) :
    KeepsEvent env R e := by
  intro t t' q ref r h
  rw [applicant] at h
  cases htr : applicantTrans (t.ports q).pointToPoint (t.machine q ref) e with
  | none =>
    rw [htr] at h
    rw [← (Prod.mk.inj (Option.some_inj.mp h)).1]
    exact hrefl t
  | some trans =>
    rw [htr] at h
    dsimp only at h
    split at h
    · rw [← (Prod.mk.inj (Option.some_inj.mp h)).1]
      exact hmachine t q ref _
    · split at h
      · rw [← (Prod.mk.inj (Option.some_inj.mp h)).1]
        exact keeps_finish R htrans hmachine hreq
      · split at h
        · cases h
        · split at h
          · rw [← (Prod.mk.inj (Option.some_inj.mp h)).1]
            exact htrans (hbuf t q _ _) (hreq _ q)
          · rw [← (Prod.mk.inj (Option.some_inj.mp h)).1]
            exact htrans (hbuf t q _ _) (keeps_finish R htrans hmachine hreq)

end Msrp
