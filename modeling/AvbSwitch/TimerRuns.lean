/-
The timers in runs of the module.

`history p` takes from a state what concerns the timers of port `p`: the two timers, and what
the log says of them.  The calls of the module are operations on this history: an event of a
machine starts the leave timer or does nothing, an event of the participant starts the LeaveAll
timer or does nothing, `vtss_msrp_more_work` is a poll, and `vtss_msrp_tick` a poll and a tick.
With this the theorems about histories become `timers_kept_iff`.
-/
import AvbSwitch.MsrpFrames
import AvbSwitch.TimerHistory

namespace Msrp

variable {n : ℕ} {env : Env n} {t t' : State n} {p q : Fin n} {ref : MachineRef} {e : MrpEvent}
  {r : ℤ}

/-! ### What concerns the timers of a port -/

/-- The note that a record is for port `p`. -/
def Record.note (p : Fin n) : Record n → Option TimerNote
  | .madAttrEvent _ _ _ => none
  | .madEvent q e => if q = p ∧ e = .leaveTimer then some (.expired .leave) else none
  | .madParticipantEvent q e => if q = p ∧ e = .leaveallTimer then some (.expired .leaveall) else none
  | .startLeaveTimer q before after => if q = p then some (.start .leave before after) else none
  | .startLeaveallTimer q before after =>
    if q = p then some (.start .leaveall before after) else none
  | .poll q => if q = p then some .poll else none
  | .tick q => if q = p then some .tick else none

def history (p : Fin n) (t : State n) : TimerHistory where
  leave := (t.ports p).leaveTimer
  leaveall := (t.ports p).leaveallTimer
  notes := t.log.filterMap (Record.note p)

theorem history_eq (hports : t'.ports p = t.ports p)
    (hlog : t'.log.filterMap (Record.note p) = t.log.filterMap (Record.note p)) :
    history p t' = history p t := by
  rw [history, history, hports, hlog]

theorem Quiet.history (h : Quiet t t') (p : Fin n) : history p t' = history p t := by
  obtain ⟨l, hl, hmem⟩ := h.log
  have hnil : l.filterMap (Record.note p) = [] := by
    rw [List.filterMap_eq_nil_iff]
    intro r hr
    obtain ⟨q, x, e, rfl⟩ := hmem r hr
    rfl
  rw [Msrp.history, Msrp.history, h.leaveTimer, h.leaveallTimer, hl, List.filterMap_append, hnil,
    List.append_nil]

theorem history_record {rec : Record n} : history p (t.record rec) =
    { history p t with notes := (history p t).notes ++ (rec.note p).toList } := by
  rw [history, State.record_ports, State.record_log, List.filterMap_append]
  congr 2

theorem history_record_none {rec : Record n} (h : rec.note p = none) :
    history p (t.record rec) = history p t := by
  rw [history_record, h, Option.toList_none, List.append_nil]

theorem history_setPort_of_ne {pp : Participant} (h : p ≠ q) :
    history p (t.setPort q pp) = history p t :=
  history_eq (State.setPort_ports_of_ne h) rfl

theorem history_setPort {pp : Participant} : history p (t.setPort p pp) =
    ⟨pp.leaveTimer, pp.leaveallTimer, (history p t).notes⟩ := by
  rw [history, State.setPort_ports_self]
  rfl

/-- Changes of a participant that leave its timers alone. -/
theorem history_setPort_same {pp : Participant} (hleave : pp.leaveTimer = (t.ports q).leaveTimer)
    (hleaveall : pp.leaveallTimer = (t.ports q).leaveallTimer) :
    history p (t.setPort q pp) = history p t := by
  by_cases h : p = q
  · subst h
    rw [history_setPort, hleave, hleaveall]
    rfl
  · exact history_setPort_of_ne h

/-! ### Events of machines -/

/-- The event starts the leave timer, unless the timer is running. -/
def StartsLeave (t : State n) (p : Fin n) (ref : MachineRef) (e : MrpEvent) : Prop :=
  (t.machine p ref).attrDir = .reg ∧
    (registrarEntry (t.machine p ref).regState e).state ≠ .invalid ∧
    (registrarEntry (t.machine p ref).regState e).action &&& Action.timerMask = Action.startLeaveTimer

instance (t : State n) (p : Fin n) (ref : MachineRef) (e : MrpEvent) :
    Decidable (StartsLeave t p ref e) := inferInstanceAs (Decidable (_ ∧ _ ∧ _))

theorem history_registrarTimer {action : Action} : history p (registrarTimer t q action) =
    if q = p ∧ action &&& Action.timerMask = Action.startLeaveTimer then (history p t).startLeave
    else history p t := by
  by_cases haction : action &&& Action.timerMask = Action.startLeaveTimer
  · by_cases hrun : (t.ports q).leaveTimer.running = false
    · rw [registrarTimer, if_pos ⟨haction, hrun⟩]
      by_cases hq : q = p
      · subst hq
        have hrun' : (history q t).leave.running = false := hrun
        rw [if_pos ⟨rfl, haction⟩, TimerHistory.startLeave, if_pos hrun', history_record,
          history_setPort, Record.note, if_pos rfl]
        rfl
      · rw [if_neg fun h => hq h.1, history_record_none (by exact if_neg hq),
          history_setPort_of_ne (Ne.symm hq)]
    · rw [registrarTimer, if_neg fun h => hrun h.2]
      by_cases hq : q = p
      · subst hq
        have hrun' : ¬ (history q t).leave.running = false := hrun
        rw [if_pos ⟨rfl, haction⟩, TimerHistory.startLeave, if_neg hrun']
      · rw [if_neg fun h => hq h.1]
  · rw [registrarTimer, if_neg fun h => haction h.1, if_neg fun h => haction h.2]

theorem history_madAttrEvent (h : madAttrEvent env t q ref e = some (t', r)) (p : Fin n) :
    history p t' =
      if q = p ∧ StartsLeave t q ref e then (history p t).startLeave else history p t := by
  by_cases hdir : (t.machine q ref).attrDir = .dec
  · rw [madAttrEvent_dec hdir] at h
    rw [(Quiet.record.trans (declarationEvent_appOnly h).quiet).history, if_neg]
    rintro ⟨-, hreg, -⟩
    exact nomatch hdir.symm.trans hreg
  · have hreg : (t.machine q ref).attrDir = .reg := by
      rcases heq : (t.machine q ref).attrDir with _ | _
      · rfl
      · exact absurd heq hdir
    obtain ⟨u, hu, happ⟩ := madAttrEvent_reg hreg h
    rw [(applicant_appOnly happ).quiet.history]
    rcases registrar_cases hu with ⟨hinv, rfl⟩ | ⟨hinv, v, hv, rfl⟩
    · rw [Quiet.record.history, if_neg]
      rintro ⟨-, -, hne, -⟩
      exact hne hinv
    · have hquiet := Quiet.record.trans (registrarIndication_quiet hv)
      have hset : ∀ (w : State n) (s : RegistrarState),
          history p (w.setRegState q ref s) = history p w := fun w s => Quiet.setMachine.history p
      rw [hset, history_registrarTimer, hquiet.history, State.record_machine]
      simp only [StartsLeave, hreg, true_and]
      rw [State.record_machine] at hinv
      simp only [ne_eq, hinv, not_false_eq_true, true_and]

/-- The events from `MRP_EVENT_R_LA` on are in no row of the registrar's table. -/
theorem registrarEntry_late : ∀ (s : RegistrarState) (e : MrpEvent), MrpEvent.rLa.index ≤ e.index →
    (registrarEntry s e).state = .invalid := by decide +kernel

theorem history_madAttrEvent_late (hlate : MrpEvent.rLa.index ≤ e.index)
    (h : madAttrEvent env t q ref e = some (t', r)) (p : Fin n) : history p t' = history p t := by
  rw [history_madAttrEvent h, if_neg]
  rintro ⟨-, -, hne, -⟩
  exact hne (registrarEntry_late _ e hlate)

theorem history_machineLoop (hlate : MrpEvent.rLa.index ≤ e.index) (p : Fin n)
    {selected : MadMachine → Bool} : ∀ {is : List (Fin 24)} {t : State n},
      machineLoop env q selected e is t = some t' → history p t' = history p t := by
  intro is
  induction is with
  | nil =>
    intro t h
    rw [machineLoop, Option.some_inj] at h
    rw [h]
  | cons i is ih =>
    intro t h
    rw [machineLoop] at h
    split at h
    · rcases hev : madAttrEvent env t q (.slot i) e with _ | ⟨u, r⟩
      · rw [hev] at h
        exact nomatch h
      · rw [hev] at h
        have hu := history_madAttrEvent_late hlate hev p
        dsimp only at h
        split at h
        · rw [Option.some_inj] at h
          subst h
          exact (history_setPort_same (by rfl) (by rfl)).trans hu
        · rw [ih h, hu]
    · exact ih h

theorem history_madEvent (hlate : MrpEvent.rLa.index ≤ e.index)
    (h : madEvent env t q e = some t') (p : Fin n) :
    history p t' = history p (t.record (.madEvent q e)) := history_machineLoop hlate p h

/-! ### Events of participants -/

/-- The event starts the LeaveAll timer. -/
def StartsLeaveall (t : State n) (p : Fin n) (e : MrpEvent) : Prop :=
  (leaveallEntry (t.ports p).leaveallState e).state ≠ .invalid ∧
    (leaveallEntry (t.ports p).leaveallState e).action &&& Action.timerMask =
      Action.startLeaveallTimer

instance (t : State n) (p : Fin n) (e : MrpEvent) : Decidable (StartsLeaveall t p e) :=
  inferInstanceAs (Decidable (_ ∧ _))

theorem history_mrpReqTxOpportunity : history p (mrpReqTxOpportunity t q) = history p t := by
  rw [mrpReqTxOpportunity]
  split
  · rfl
  · exact history_setPort_same (by rfl) (by rfl)

theorem history_leaveallTimerAction {action : Action} : history p (leaveallTimerAction t q action) =
    if q = p ∧ action &&& Action.timerMask = Action.startLeaveallTimer then
      (history p t).startLeaveall else history p t := by
  by_cases haction : action &&& Action.timerMask = Action.startLeaveallTimer
  · rw [leaveallTimerAction, if_pos haction]
    by_cases hq : q = p
    · subst hq
      rw [if_pos ⟨rfl, haction⟩, history_record, history_setPort, Record.note, if_pos rfl]
      rfl
    · rw [if_neg fun h => hq h.1, history_record_none (by exact if_neg hq),
        history_setPort_of_ne (Ne.symm hq)]
  · rw [leaveallTimerAction, if_neg haction, if_neg fun h => haction h.2]

theorem history_madParticipantEvent (h : madParticipantEvent env t q e = some t') (p : Fin n) :
    history p t' =
      if q = p ∧ StartsLeaveall t q e then
        (history p (t.record (.madParticipantEvent q e))).startLeaveall
      else history p (t.record (.madParticipantEvent q e)) := by
  rw [madParticipantEvent] at h
  dsimp only at h
  rw [State.record_ports] at h
  by_cases hinv : (leaveallEntry (t.ports q).leaveallState e).state = .invalid
  · rw [if_pos hinv, Option.some_inj] at h
    rw [← h, if_neg]
    rintro ⟨-, hne, -⟩
    exact hne hinv
  · rw [if_neg hinv, Option.map_eq_some_iff] at h
    obtain ⟨u, hu, rfl⟩ := h
    -- a LeaveAll is passed to the machines, which do not answer it
    have hsent : history p u = history p (t.record (.madParticipantEvent q e)) := by
      split at hu
      · rw [history_madEvent (le_refl _) hu]
        have hnote : Record.note p (.madEvent q .rLa) = none := if_neg fun h => nomatch h.2
        rw [history_record_none hnote]
        exact history_setPort_same (by rfl) (by rfl)
      · rw [← Option.some_inj.mp hu]
    refine (history_setPort_same (by rfl) (by rfl)).trans ?_
    have hreq : ∀ (c : Prop) [Decidable c] (w : State n),
        history p (if c then mrpReqTxOpportunity w q else w) = history p w := by
      intro c _ w
      split
      · exact history_mrpReqTxOpportunity
      · rfl
    rw [hreq, history_leaveallTimerAction, hsent]
    simp only [StartsLeaveall, ne_eq, hinv, not_false_eq_true, true_and]

/-! ### `vtss_msrp_more_work` and `vtss_msrp_tick` -/

/-- The columns of the LeaveAll table end before the events that a participant is sent by its
timer and its transmissions. -/
theorem not_startsLeaveall_late (hlate : MrpEvent.rLa.index ≤ e.index) : ¬ StartsLeaveall t q e := by
  have hentry : ∀ (s : LeaveallState) (e : MrpEvent), MrpEvent.rLa.index ≤ e.index →
      (leaveallEntry s e).state = .invalid := by decide +kernel
  exact fun h => h.1 (hentry _ e hlate)

theorem history_madParticipantEvent_late (hlate : MrpEvent.rLa.index ≤ e.index)
    (h : madParticipantEvent env t q e = some t') (p : Fin n) :
    history p t' = history p (t.record (.madParticipantEvent q e)) := by
  rw [history_madParticipantEvent h, if_neg fun h => not_startsLeaveall_late hlate h.2]

/-- The parts of a transmission: an event for the participant, one for its machines, and what is
left of the send buffer. -/
theorem mrpTx_cases (h : mrpTx env t q = some t') :
    ∃ u v event buf ptr, madParticipantEvent env t q .tx = some u ∧
      (event = .txLaf ∨ event = .txLa ∨ event = .tx) ∧ madEvent env u q event = some v ∧
      t' = v.setPort q { v.ports q with sendBuf := buf, sendPtr := some ptr } := by
  rw [mrpTx] at h
  obtain ⟨u, hu, h⟩ := Option.bind_eq_some_iff.mp h
  cases hptr : (u.ports q).sendPtr with
  | none =>
    rw [hptr] at h
    cases h
  | some ptr =>
    rw [hptr] at h
    obtain ⟨v, hv, h⟩ := Option.bind_eq_some_iff.mp h
    cases hptr' : (v.ports q).sendPtr with
    | none =>
      rw [hptr'] at h
      cases h
    | some ptr' =>
      rw [hptr'] at h
      obtain ⟨b, -, rfl⟩ := Option.map_eq_some_iff.mp h
      refine ⟨u, v, _, b.2.sendBuf, b.2.sendPtr, hu, ?_, hv, rfl⟩
      split
      · split
        · exact Or.inl rfl
        · exact Or.inr (Or.inl rfl)
      · exact Or.inr (Or.inr rfl)

/-- A transmission leaves the timers alone. -/
theorem history_mrpTx (h : mrpTx env t q = some t') (p : Fin n) : history p t' = history p t := by
  obtain ⟨u, v, event, buf, ptr, hu, hevent, hv, rfl⟩ := mrpTx_cases h
  have hfirst : history p u = history p t := by
    rw [history_madParticipantEvent_late (by decide) hu, history_record_none]
    exact if_neg fun h => nomatch h.2
  have hsecond : history p v = history p u := by
    have hlate : MrpEvent.rLa.index ≤ event.index ∧ event ≠ .leaveTimer := by
      rcases hevent with rfl | rfl | rfl <;> decide
    rw [history_madEvent hlate.1 hv, history_record_none]
    exact if_neg fun h => hlate.2 h.2
  exact (history_setPort_same (by rfl) (by rfl)).trans (hsecond.trans hfirst)

theorem history_pollLeaveTimer (h : pollLeaveTimer env t q = some t') (p : Fin n) :
    history p t' = if q = p then (history p t).pollLeave else history p t := by
  rw [pollLeaveTimer] at h
  dsimp only at h
  by_cases hdue : (t.ports q).leaveTimer.running ∧ (t.ports q).leaveTimer.timeout = 0
  · rw [if_pos hdue] at h
    rw [history_madEvent (by decide) h]
    by_cases hq : q = p
    · subst hq
      have hdue' : (history q t).leave.running ∧ (history q t).leave.timeout = 0 := hdue
      rw [if_pos rfl, TimerHistory.pollLeave, if_pos hdue', history_record, history_setPort,
        Record.note, if_pos ⟨rfl, rfl⟩]
      rfl
    · rw [if_neg hq, history_record_none (by exact if_neg fun h => hq h.1),
        history_setPort_of_ne (Ne.symm hq)]
  · rw [if_neg hdue, Option.some_inj] at h
    subst h
    by_cases hq : q = p
    · subst hq
      have hdue' : ¬ ((history q t).leave.running ∧ (history q t).leave.timeout = 0) := hdue
      rw [if_pos rfl, TimerHistory.pollLeave, if_neg hdue']
    · rw [if_neg hq]

theorem history_pollLeaveallTimer (h : pollLeaveallTimer env t q = some t') (p : Fin n) :
    history p t' = if q = p then (history p t).pollLeaveall else history p t := by
  rw [pollLeaveallTimer] at h
  by_cases hdue : (t.ports q).leaveallTimer.running ∧ (t.ports q).leaveallTimer.timeout = 0
  · rw [if_pos hdue] at h
    rw [history_madParticipantEvent_late (by decide) h]
    by_cases hq : q = p
    · subst hq
      have hdue' : (history q t).leaveall.running ∧ (history q t).leaveall.timeout = 0 := hdue
      rw [if_pos rfl, TimerHistory.pollLeaveall, if_pos hdue', history_record, Record.note,
        if_pos ⟨rfl, rfl⟩]
      rfl
    · rw [if_neg hq, history_record_none (by exact if_neg fun h => hq h.1)]
  · rw [if_neg hdue, Option.some_inj] at h
    subst h
    by_cases hq : q = p
    · subst hq
      have hdue' : ¬ ((history q t).leaveall.running ∧ (history q t).leaveall.timeout = 0) := hdue
      rw [if_pos rfl, TimerHistory.pollLeaveall, if_neg hdue']
    · rw [if_neg hq]

theorem mrpTxOpportunity_timers (pp : Participant) :
    (mrpTxOpportunity pp).1.leaveTimer = pp.leaveTimer ∧
      (mrpTxOpportunity pp).1.leaveallTimer = pp.leaveallTimer := by
  rw [mrpTxOpportunity]
  split
  · split <;> exact ⟨rfl, rfl⟩
  · split <;> exact ⟨rfl, rfl⟩

/-- One turn of `vtss_msrp_more_work` is a poll for its port. -/
theorem history_workPort (h : workPort env t q = some t') (p : Fin n) :
    history p t' = if q = p then (history p t).poll else history p t := by
  rw [workPort, Option.bind_eq_some_iff] at h
  obtain ⟨u, hu, h⟩ := h
  rw [Option.bind_eq_some_iff] at h
  obtain ⟨v, hv, h⟩ := h
  obtain ⟨hleave, hleaveall⟩ := mrpTxOpportunity_timers (v.ports q)
  have hset := history_setPort_same (p := p) hleave hleaveall
  have htx : history p t' = history p v := by
    rcases hopp : mrpTxOpportunity (v.ports q) with ⟨pp, opportunity⟩
    simp only [hopp] at h hset
    split at h
    · rw [history_mrpTx h, hset]
    · rw [← Option.some_inj.mp h, hset]
  rw [htx, history_pollLeaveallTimer hv, history_pollLeaveTimer hu]
  by_cases hq : q = p
  · subst hq
    rw [if_pos rfl, if_pos rfl, if_pos rfl, history_record, Record.note, if_pos rfl]
    rfl
  · rw [if_neg hq, if_neg hq, if_neg hq, history_record_none (by exact if_neg hq)]

/-- A loop over ports that does something for each port on its own does it once for port `p`. -/
theorem history_ports {step : State n → Fin n → Option (State n)} {f : TimerHistory → TimerHistory}
    (hstep : ∀ {t t' q}, step t q = some t' →
      history p t' = if q = p then f (history p t) else history p t) :
    ∀ {qs : List (Fin n)} {t t' : State n}, qs.Nodup → Runs.run step t qs = some t' →
      history p t' = if p ∈ qs then f (history p t) else history p t := by
  intro qs
  induction qs with
  | nil =>
    intro t t' _ h
    rw [Runs.run_nil, Option.some_inj] at h
    rw [h, if_neg List.not_mem_nil]
  | cons q qs ih =>
    intro t t' hnodup h
    rw [List.nodup_cons] at hnodup
    obtain ⟨u, hu, hrun⟩ := Runs.run_cons_eq_some.mp h
    rw [ih hnodup.2 hrun, hstep hu]
    by_cases hq : q = p
    · subst hq
      rw [if_neg hnodup.1, if_pos rfl, if_pos List.mem_cons_self]
    · rw [if_neg hq]
      simp only [List.mem_cons, Ne.symm hq, false_or]

theorem history_vtssMsrpMoreWork (h : vtssMsrpMoreWork env t = some t') (p : Fin n) :
    history p t' = (history p t).poll := by
  rw [history_ports (fun hstep => history_workPort hstep p) (List.nodup_finRange n) h,
    if_pos (List.mem_finRange p)]

theorem history_tickPort (t : State n) (q p : Fin n) :
    history p (tickPort t q) = if q = p then (history p t).tick else history p t := by
  rw [tickPort]
  by_cases hq : q = p
  · subst hq
    rw [if_pos rfl, history_record, history_setPort, Record.note, if_pos rfl]
    rfl
  · rw [if_neg hq, history_record_none (by exact if_neg hq), history_setPort_of_ne (Ne.symm hq)]

theorem run_tickPort : ∀ (qs : List (Fin n)) (t : State n),
    Runs.run (fun t q => some (tickPort t q)) t qs = some (qs.foldl tickPort t) := by
  intro qs
  induction qs with
  | nil => exact fun t => rfl
  | cons q qs ih =>
    intro t
    rw [Runs.run_cons, Option.bind_some, ih, List.foldl_cons]

theorem history_vtssMsrpTick (h : vtssMsrpTick env t = some t') (p : Fin n) :
    history p t' = (history p t).poll.tick := by
  rw [vtssMsrpTick, Option.map_eq_some_iff] at h
  obtain ⟨u, hu, rfl⟩ := h
  have hticks := history_ports (p := p) (f := TimerHistory.tick) (fun {t t' q} hstep => by
    rw [← Option.some_inj.mp hstep, history_tickPort]) (List.nodup_finRange n)
      (run_tickPort (List.finRange n) u)
  rw [hticks, if_pos (List.mem_finRange p), history_vtssMsrpMoreWork hu]

/-! ### Runs -/

/-- What the module is called with: a tick, a call when idle, an event for a machine, or an event
for a participant.  The event of the LeaveAll timer is not among these, as only the timer raises
it. -/
inductive Input (n : ℕ)
  | tick
  | moreWork
  | attrEvent (q : Fin n) (ref : MachineRef) (e : MrpEvent)
  | participantEvent (q : Fin n) (e : MrpEvent) (he : e ≠ .leaveallTimer)

def Input.step (env : Env n) (t : State n) : Input n → Option (State n)
  | .tick => vtssMsrpTick env t
  | .moreWork => vtssMsrpMoreWork env t
  | .attrEvent q ref e => (madAttrEvent env t q ref e).map Prod.fst
  | .participantEvent q e _ => madParticipantEvent env t q e

/-- `vtss_msrp_more_work` does not come upon the leave timer running, nor upon the LeaveAll timer
after it has run out; and when the leave timer is started, the timeout of the LeaveAll timer is
already what this sets it to. -/
def TimersUndisturbed (p : Fin n) (t : State n) : Input n → Prop
  | .tick | .moreWork =>
    (t.ports p).leaveTimer.running = false ∧ (t.ports p).leaveallTimer ≠ ⟨false, 0⟩
  | .attrEvent q ref e => q = p → StartsLeave t q ref e → (t.ports p).leaveTimer.running = false →
    (t.ports p).leaveallTimer.timeout = mrpLeavetimerPeriod
  | .participantEvent _ _ _ => True

/-- One call: the history stays one of those that the operations lead to, and its notes in order
if the timers are undisturbed. -/
theorem input_step {a : Input n} (hinv : (history p t).Inv) (h : a.step env t = some t') :
    (history p t').Inv ∧ (TimersKept (history p t).notes →
      (TimersKept (history p t').notes ↔ TimersUndisturbed p t a)) := by
  cases a with
  | tick =>
    have heq : history p t' = (history p t).poll.tick := history_vtssMsrpTick h p
    rw [heq]
    exact ⟨TimerHistory.tick_inv (TimerHistory.poll_inv hinv) (TimerHistory.poll_stopped hinv),
      fun hkept => TimerHistory.tick_kept.trans (TimerHistory.poll_kept hinv hkept)⟩
  | moreWork =>
    have heq : history p t' = (history p t).poll := history_vtssMsrpMoreWork h p
    rw [heq]
    exact ⟨TimerHistory.poll_inv hinv, TimerHistory.poll_kept hinv⟩
  | attrEvent q ref e =>
    rw [Input.step, Option.map_eq_some_iff] at h
    obtain ⟨⟨u, r⟩, hu, rfl⟩ := h
    have heq := history_madAttrEvent hu p
    dsimp only
    rw [heq]
    by_cases hstarts : q = p ∧ StartsLeave t q ref e
    · rw [if_pos hstarts]
      refine ⟨TimerHistory.startLeave_inv hinv, fun hkept => ?_⟩
      exact (TimerHistory.startLeave_kept hinv hkept).trans
        ⟨fun hrun _ _ => hrun, fun hall => hall hstarts.1 hstarts.2⟩
    · rw [if_neg hstarts]
      exact ⟨hinv, fun hkept => iff_of_true hkept fun hq hs => absurd ⟨hq, hs⟩ hstarts⟩
  | participantEvent q e he =>
    have heq := history_madParticipantEvent h p
    have hnote : Record.note p (.madParticipantEvent q e) = none := if_neg fun h => he h.2
    rw [history_record_none hnote] at heq
    rw [heq]
    split
    · exact ⟨TimerHistory.startLeaveall_inv hinv,
        fun hkept => iff_of_true (TimerHistory.startLeaveall_kept hkept) trivial⟩
    · exact ⟨hinv, fun hkept => iff_of_true hkept trivial⟩

/-- From the initial timers: no expiry is lost or mistimed all along a run, and no start touches
the other timer, if and only if the timers are undisturbed at each call. -/
theorem timers_kept_iff (env : Env n) (p : Fin n) (hleave : (t.ports p).leaveTimer = ⟨false, 0⟩)
    (hleaveall : (t.ports p).leaveallTimer = ⟨false, mrpLeaveallTimerPeriod⟩) (hlog : t.log = [])
    (as : List (Input n)) :
    Runs.Throughout (Input.step env) (fun t => TimersKept (history p t).notes) t as ↔
      Runs.EachStep (Input.step env) (TimersUndisturbed p) t as := by
  have hinit : history p t = TimerHistory.init := by
    rw [history, hleave, hleaveall, hlog]
    rfl
  refine Runs.throughout_iff_eachStep (K := fun t => (history p t).Inv)
    (fun hk h => (input_step hk h).1) (fun hk hI h => (input_step hk h).2 hI) ?_ ?_
  · show (history p t).Inv
    rw [hinit]
    exact TimerHistory.init_inv
  · show TimersKept (history p t).notes
    rw [hinit]
    intro pre w b a post h
    simp [TimerHistory.init] at h

/-- The LeaveAll timer is started and a tick follows. -/
theorem timers_kept_leaveall :
    Runs.Throughout (Input.step ⟨true, fun _ _ => false⟩) (fun t => TimersKept (history 0 t).notes)
      (State.idle 1) [.participantEvent 0 .join nofun, .tick] := by
  refine (timers_kept_iff ⟨true, fun _ _ => false⟩ 0 rfl rfl rfl _).mpr fun t ht =>
    ⟨trivial, fun t' _ => ⟨?_, trivial⟩⟩
  have htimers : (Input.step ⟨true, fun _ _ => false⟩ (State.idle 1)
      (.participantEvent 0 .join nofun)).map
        (fun t => ((t.ports 0).leaveTimer, (t.ports 0).leaveallTimer)) =
      some (⟨false, 0⟩, ⟨true, 1000⟩) := by decide +kernel
  rw [ht, Option.map_some, Option.some_inj, Prod.mk.injEq] at htimers
  rw [TimersUndisturbed, htimers.1, htimers.2]
  exact ⟨rfl, nofun⟩

/-- A Talker's registrar starts the leave timer, which expires without a tick. -/
theorem timers_expire_early :
    ¬ Runs.Throughout (Input.step ⟨true, fun _ _ => false⟩)
      (fun t => TimersKept (history 0 t).notes) registeredTalker
      [.attrEvent 0 (.slot 0) .rNew, .moreWork] := by
  intro h
  set run := Runs.run (Input.step ⟨true, fun _ _ => false⟩) registeredTalker
    [.attrEvent 0 (.slot 0) .rNew, .moreWork] with hrun
  have hnotes : run.map (fun t => (history 0 t).notes) =
      some [.start .leave ⟨false, 1000⟩ ⟨false, 80⟩, .poll, .expired .leave] := by decide +kernel
  obtain ⟨t, ht, hlist⟩ := Option.map_eq_some_iff.mp hnotes
  have hkept : TimersKept (history 0 t).notes := h _ t List.prefix_rfl (hrun ▸ ht)
  rw [hlist] at hkept
  have hdue := (hkept [] .leave _ _ _ rfl).2.due [.poll] [] rfl (by simp [NoStart])
  exact absurd hdue.1 (by decide)

end Msrp
