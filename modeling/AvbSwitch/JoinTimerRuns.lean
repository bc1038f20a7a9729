/-
The join timer in runs of the module.

`Noted p t l t'` says that from `t` to `t'` the notes `l` are what becomes of the join timer of
port `p`, the polls, ticks and transmissions among them being those of the log.  All that the
events of machines and participants do to the timer is to start it (`Requests`);
`vtss_msrp_more_work` polls it, and `vtss_msrp_tick` polls it and counts it down.

A transmission is a call of `mrp_tx`, which is the only one to raise `MRP_EVENT_TX` for a
participant.  `requested_granted` is what becomes of a request for one.
-/
import AvbSwitch.EventFrames
import AvbSwitch.JoinTimer
import AvbSwitch.TimerRuns

namespace Msrp

variable {n : ℕ} {env : Env n} {t t' u v : State n} {p q : Fin n} {ref : MachineRef} {m : MadMachine}
  {e : MrpEvent} {r : ℤ} {l l' : List JoinNote}

/-! ### Notes and the log -/

/-- The record is a poll, a tick or a transmission of port `p`. -/
def Record.isWork (p : Fin n) : Record n → Bool
  | .poll q => q = p
  | .tick q => q = p
  | .madParticipantEvent q e => q = p ∧ e = .tx
  | _ => false

/-- The polls, ticks and transmissions of port `p`. -/
def State.workLog (t : State n) (p : Fin n) : List (Record n) := t.log.filter (Record.isWork p)

/-- What the log says of a note: a poll that grants the opportunity is followed by the
transmission. -/
def JoinNote.records (p : Fin n) : JoinNote → List (Record n)
  | .start => []
  | .poll granted => .poll p :: if granted then [.madParticipantEvent p .tx] else []
  | .tick => [.tick p]

/-- What becomes of the join timer of port `p` from `t` to `t'`. -/
structure Noted (p : Fin n) (t : State n) (l : List JoinNote) (t' : State n) : Prop where
  pointToPoint : (t'.ports p).pointToPoint = (t.ports p).pointToPoint
  timer : Runs.run (joinStep (t.ports p).pointToPoint) (t.ports p).joinTimer l =
    some (t'.ports p).joinTimer
  log : t'.workLog p = t.workLog p ++ l.flatMap (JoinNote.records p)

theorem Noted.trans (h : Noted p t l u) (h' : Noted p u l' v) : Noted p t (l ++ l') v := by
  refine ⟨h'.pointToPoint.trans h.pointToPoint, ?_, ?_⟩
  · rw [Runs.run_append_eq_some]
    refine ⟨_, h.timer, ?_⟩
    rw [← h.pointToPoint]
    exact h'.timer
  · rw [h'.log, h.log, List.flatMap_append, List.append_assoc]

/-- Nothing becomes of the timer. -/
theorem Noted.of_same (hp2p : (t'.ports p).pointToPoint = (t.ports p).pointToPoint)
    (htimer : (t'.ports p).joinTimer = (t.ports p).joinTimer) (hlog : t'.workLog p = t.workLog p) :
    Noted p t [] t' :=
  ⟨hp2p, by rw [htimer]; rfl, by rw [hlog, List.flatMap_nil, List.append_nil]⟩

theorem workLog_record {x : Record n} (h : x.isWork p = false) :
    (t.record x).workLog p = t.workLog p := by
  rw [State.workLog, State.workLog, State.record_log, List.filter_append,
    List.filter_singleton, h]
  exact List.append_nil _

theorem workLog_record_self {x : Record n} (h : x.isWork p = true) :
    (t.record x).workLog p = t.workLog p ++ [x] := by
  rw [State.workLog, State.workLog, State.record_log, List.filter_append,
    List.filter_singleton, h]
  rfl

/-! ### Requests -/

/-- The timer of port `p` is started, or nothing becomes of it. -/
def Requests (p : Fin n) (t t' : State n) : Prop := ∃ l, (∀ x ∈ l, x = .start) ∧ Noted p t l t'

namespace Requests

theorem trans (h : Requests p t u) (h' : Requests p u v) : Requests p t v := by
  obtain ⟨l, hl, hnoted⟩ := h
  obtain ⟨l', hl', hnoted'⟩ := h'
  exact ⟨l ++ l', fun x hx => (List.mem_append.mp hx).elim (hl x) (hl' x), hnoted.trans hnoted'⟩

theorem of_same (hports : t'.ports p = t.ports p) (hlog : t'.log = t.log) : Requests p t t' :=
  ⟨[], fun _ hx => absurd hx List.not_mem_nil,
    Noted.of_same (by rw [hports]) (by rw [hports]) (by rw [State.workLog, State.workLog, hlog])⟩

theorem refl : Requests p t t := of_same rfl rfl

theorem record {x : Record n} (h : x.isWork p = false) : Requests p t (t.record x) :=
  ⟨[], fun _ hx => absurd hx List.not_mem_nil, Noted.of_same rfl rfl (workLog_record h)⟩

/-- A participant whose join timer and link are the same. -/
theorem setPort {pp : Participant} (hp2p : pp.pointToPoint = (t.ports q).pointToPoint)
    (htimer : pp.joinTimer = (t.ports q).joinTimer) : Requests p t (t.setPort q pp) := by
  refine ⟨[], fun _ hx => absurd hx List.not_mem_nil, ?_⟩
  by_cases hq : p = q
  · subst hq
    refine Noted.of_same ?_ ?_ rfl
    · rw [State.setPort_ports_self, hp2p]
    · rw [State.setPort_ports_self, htimer]
  · refine Noted.of_same ?_ ?_ rfl
    · rw [State.setPort_ports_of_ne hq]
    · rw [State.setPort_ports_of_ne hq]

theorem setMachine : Requests p t (t.setMachine q ref m) := setPort rfl rfl

theorem mrpReqTxOpportunity : Requests p t (mrpReqTxOpportunity t q) := by
  rw [Msrp.mrpReqTxOpportunity]
  by_cases hrun : (t.ports q).joinTimer.running = true
  · rw [if_pos hrun]
    exact refl
  · rw [if_neg hrun]
    by_cases hq : p = q
    · subst hq
      refine ⟨[.start], fun x hx => List.mem_singleton.mp hx, ?_, ?_, ?_⟩
      · rw [State.setPort_ports_self]
      · rw [Runs.run_singleton, joinStep, if_neg hrun, State.setPort_ports_self]
      · exact (List.append_nil _).symm
    · exact of_same (State.setPort_ports_of_ne hq) rfl

end Requests

/-- All that the applicant does to the join timer is to request an opportunity. -/
theorem requests_applicant : KeepsEvent env (Requests p) e :=
  keepsEvent_of_primitive (fun _ => Requests.refl) Requests.trans
    (fun _ _ _ _ => Requests.setMachine) (fun _ _ => Requests.mrpReqTxOpportunity)
    fun _ _ _ _ => Requests.setPort rfl rfl

theorem requests_eventFrame : EventFrame env (Requests p) where
  refl _ := Requests.refl
  trans := Requests.trans
  machine _ _ _ _ := Requests.setMachine
  failure _ _ := Requests.setPort rfl rfl
  timer t q action := by
    rw [registrarTimer]
    split
    · exact Requests.trans (by exact Requests.setPort rfl rfl) (Requests.record rfl)
    · exact Requests.refl
  reservations h := Requests.of_same (by rw [h.ports]) h.log
  record t x hx := by
    refine Requests.record ?_
    cases x with
    | madAttrEvent q ref e | madEvent q e | startLeaveTimer q => rfl
    | _ => cases hx
  silent _ := requests_applicant

/-- An event of a machine requests an opportunity, or leaves the join timer alone. -/
theorem requests_madAttrEvent (h : madAttrEvent env t q ref e = some (t', r)) : Requests p t t' :=
  requests_eventFrame.madAttrEvent requests_applicant h

theorem requests_madEvent (h : madEvent env t q e = some t') : Requests p t t' :=
  requests_eventFrame.madEvent requests_applicant (fun _ _ _ => Requests.setPort rfl rfl) h

theorem requests_leaveallTimerAction {action : Action} :
    Requests p t (leaveallTimerAction t q action) := by
  rw [leaveallTimerAction]
  split
  · exact Requests.trans (by exact Requests.setPort rfl rfl) (Requests.record rfl)
  · exact Requests.refl

/-- What `mad_participant_event` does after it has been called. -/
theorem requests_madParticipantEvent (h : madParticipantEvent env t q e = some t') :
    Requests p (t.record (.madParticipantEvent q e)) t' :=
  requests_eventFrame.madParticipantEvent (fun _ _ _ => Requests.setPort rfl rfl)
    (fun _ _ => Requests.setPort rfl rfl) (fun _ _ _ => requests_leaveallTimerAction)
    (fun _ _ => Requests.mrpReqTxOpportunity) (fun _ _ _ => Requests.setPort rfl rfl) h

/-! ### Polls and ticks -/

/-- What `mrp_tx` does after it has raised the event for the participant. -/
theorem requests_mrpTx (h : mrpTx env t q = some t') :
    Requests p (t.record (.madParticipantEvent q .tx)) t' := by
  obtain ⟨u, v, event, buf, ptr, hu, -, hv, rfl⟩ := mrpTx_cases h
  exact ((requests_madParticipantEvent hu).trans (requests_madEvent hv)).trans
    (by exact Requests.setPort rfl rfl)

theorem requests_pollLeaveTimer (h : pollLeaveTimer env t q = some t') : Requests p t t' := by
  rw [pollLeaveTimer] at h
  dsimp only at h
  split at h
  · exact Requests.trans (by exact Requests.setPort rfl rfl) (requests_madEvent h)
  · rw [← Option.some_inj.mp h]
    exact Requests.refl

theorem requests_pollLeaveallTimer (h : pollLeaveallTimer env t q = some t') : Requests p t t' := by
  rw [pollLeaveallTimer] at h
  split at h
  · have hcall : Requests p t (t.record (.madParticipantEvent q .leaveallTimer)) := by
      refine Requests.record (decide_eq_false ?_)
      exact fun h => MrpEvent.noConfusion h.2
    exact hcall.trans (requests_madParticipantEvent h)
  · rw [← Option.some_inj.mp h]
    exact Requests.refl

/-- The opportunity to transmit as notes: a poll, and on a shared link a start if the timer does
not run. -/
theorem mrpTxOpportunity_notes (p : Fin n) (pp : Participant) :
    (mrpTxOpportunity pp).1.pointToPoint = pp.pointToPoint ∧
      ∃ l, Runs.run (joinStep pp.pointToPoint) pp.joinTimer l =
          some (mrpTxOpportunity pp).1.joinTimer ∧
        l.flatMap (JoinNote.records p) =
          .poll p :: if (mrpTxOpportunity pp).2 then [.madParticipantEvent p .tx] else [] := by
  rw [mrpTxOpportunity]
  by_cases hrun : pp.joinTimer.running = true
  · rw [if_pos hrun]
    by_cases hzero : pp.joinTimer.timeout = 0
    · rw [if_pos hzero]
      refine ⟨rfl, [.poll (!pp.pointToPoint)], ?_, List.append_nil _⟩
      rw [Runs.run_singleton, joinStep, if_pos ⟨hrun, hzero⟩, if_pos rfl]
    · rw [if_neg hzero]
      refine ⟨rfl, [.poll false], ?_, rfl⟩
      rw [Runs.run_singleton, joinStep, if_neg fun h => hzero h.2]
      rfl
  · rw [if_neg hrun]
    cases hlink : pp.pointToPoint with
    | true =>
      rw [if_pos rfl]
      refine ⟨hlink, [.poll false], ?_, rfl⟩
      rw [Runs.run_singleton, joinStep, if_neg fun h => hrun h.1]
      rfl
    | false =>
      rw [if_neg Bool.false_ne_true]
      refine ⟨rfl, [.poll false, .start], ?_, rfl⟩
      rw [Runs.run_cons, joinStep, if_neg fun h => hrun h.1, if_neg Bool.false_ne_true,
        Option.bind_some, Runs.run_singleton, joinStep, if_neg hrun]

theorem flatMap_starts (p : Fin n) (hl : ∀ x ∈ l, x = .start) :
    l.flatMap (JoinNote.records p) = [] := by
  rw [List.flatMap_eq_nil_iff]
  intro x hx
  rw [hl x hx]
  rfl

/-- One turn of `vtss_msrp_more_work` for the port itself. -/
theorem noted_workPort_self (h : workPort env t p = some t') : ∃ l, Noted p t l t' := by
  rw [workPort] at h
  obtain ⟨u, hu, h⟩ := Option.bind_eq_some_iff.mp h
  obtain ⟨v, hv, h⟩ := Option.bind_eq_some_iff.mp h
  obtain ⟨l₁, hstarts, hnoted⟩ :=
    (requests_pollLeaveTimer (p := p) hu).trans (requests_pollLeaveallTimer hv)
  obtain ⟨hlink, l₂, htimer, hrecords⟩ := mrpTxOpportunity_notes p (v.ports p)
  have hself : (Record.poll p).isWork p = true := decide_eq_true rfl
  have hlog : v.workLog p = t.workLog p ++ [.poll p] := by
    rw [hnoted.log, flatMap_starts p hstarts, List.append_nil, workLog_record_self hself]
  have hv2p : (v.ports p).pointToPoint = (t.ports p).pointToPoint := hnoted.pointToPoint
  -- up to the opportunity the notes are those of the requests, and then the poll
  have hrun : Runs.run (joinStep (t.ports p).pointToPoint) (t.ports p).joinTimer (l₁ ++ l₂) =
      some (mrpTxOpportunity (v.ports p)).1.joinTimer := by
    rw [Runs.run_append_eq_some]
    refine ⟨_, hnoted.timer, ?_⟩
    rw [← hv2p]
    exact htimer
  set w := v.setPort p (mrpTxOpportunity (v.ports p)).1 with hw
  have hwport : w.ports p = (mrpTxOpportunity (v.ports p)).1 := State.setPort_ports_self
  have hwlog : w.workLog p = t.workLog p ++ [.poll p] := hlog
  cases hopp : (mrpTxOpportunity (v.ports p)).2 with
  | true =>
    have htx : mrpTx env w p = some t' := by
      rw [← h]
      dsimp only
      rw [if_pos hopp]
    obtain ⟨l₃, hstarts', hnoted'⟩ := requests_mrpTx (p := p) htx
    have hself : (Record.madParticipantEvent p .tx).isWork p = true := decide_eq_true ⟨rfl, rfl⟩
    refine ⟨(l₁ ++ l₂) ++ l₃, ?_, ?_, ?_⟩
    · rw [hnoted'.pointToPoint, State.record_ports, hwport, hlink, hv2p]
    · rw [Runs.run_append_eq_some]
      refine ⟨_, hrun, ?_⟩
      have htail := hnoted'.timer
      rw [State.record_ports, hwport, hlink, hv2p] at htail
      exact htail
    · rw [hnoted'.log, workLog_record_self hself, hwlog, List.flatMap_append,
        List.flatMap_append, flatMap_starts p hstarts, flatMap_starts p hstarts', hrecords, hopp,
        List.append_nil, List.append_nil, List.append_assoc]
      rfl
  | false =>
    have ht' : t' = w := by
      dsimp only at h
      rw [if_neg (by rw [hopp]; exact Bool.false_ne_true)] at h
      exact (Option.some_inj.mp h).symm
    refine ⟨l₁ ++ l₂, ?_, ?_, ?_⟩
    · rw [ht', hwport, hlink, hv2p]
    · rw [ht', hwport, hrun]
    · rw [ht', hwlog, List.flatMap_append, flatMap_starts p hstarts, hrecords, hopp]
      rfl

/-- One turn of `vtss_msrp_more_work` for another port. -/
theorem noted_workPort_of_ne (hq : p ≠ q) (h : workPort env t q = some t') : Requests p t t' := by
  have hwork : ∀ {x : Record n}, (x = .poll q ∨ x = .madParticipantEvent q .tx) →
      x.isWork p = false := by
    rintro x (rfl | rfl)
    · exact decide_eq_false fun heq => hq heq.symm
    · exact decide_eq_false fun heq => hq heq.1.symm
  rw [workPort] at h
  obtain ⟨u, hu, h⟩ := Option.bind_eq_some_iff.mp h
  obtain ⟨v, hv, h⟩ := Option.bind_eq_some_iff.mp h
  have hpoll : Requests p t v := ((Requests.record (hwork (Or.inl rfl))).trans
    (requests_pollLeaveTimer hu)).trans (requests_pollLeaveallTimer hv)
  have hopp : Requests p v (v.setPort q (mrpTxOpportunity (v.ports q)).1) :=
    Requests.of_same (State.setPort_ports_of_ne hq) rfl
  dsimp only at h
  split at h
  · exact (hpoll.trans hopp).trans ((Requests.record (hwork (Or.inr rfl))).trans (requests_mrpTx h))
  · rw [← Option.some_inj.mp h]
    exact hpoll.trans hopp

theorem noted_workPort (h : workPort env t q = some t') : ∃ l, Noted p t l t' := by
  by_cases hq : p = q
  · subst hq
    exact noted_workPort_self h
  · obtain ⟨l, -, hnoted⟩ := noted_workPort_of_ne hq h
    exact ⟨l, hnoted⟩

theorem noted_tickPort (t : State n) (q p : Fin n) : ∃ l, Noted p t l (tickPort t q) := by
  rw [tickPort]
  by_cases hq : p = q
  · subst hq
    have hself : (Record.tick p).isWork p = true := decide_eq_true rfl
    refine ⟨[.tick], ?_, ?_, ?_⟩
    · rw [State.record_ports, State.setPort_ports_self]
    · rw [Runs.run_singleton, joinStep, State.record_ports, State.setPort_ports_self]
    · exact workLog_record_self hself
  · refine ⟨[], Noted.of_same ?_ ?_ ?_⟩
    · rw [State.record_ports, State.setPort_ports_of_ne hq]
    · rw [State.record_ports, State.setPort_ports_of_ne hq]
    · exact workLog_record (decide_eq_false fun heq => hq heq.symm)

/-- A loop each turn of which has notes has notes. -/
theorem noted_run {α : Type*} {step : State n → α → Option (State n)}
    (hstep : ∀ {t t' a}, step t a = some t' → ∃ l, Noted p t l t') {as : List α}
    (h : Runs.run step t as = some t') : ∃ l, Noted p t l t' := by
  refine Runs.run_invariant (I := fun u => ∃ l, Noted p t l u) ?_ ⟨[], Noted.of_same rfl rfl rfl⟩ h
  rintro u a u' ⟨l, hl⟩ hu
  obtain ⟨l', hl'⟩ := hstep hu
  exact ⟨l ++ l', hl.trans hl'⟩

theorem noted_moreWork (h : vtssMsrpMoreWork env t = some t') : ∃ l, Noted p t l t' :=
  noted_run (fun hs => noted_workPort hs) h

theorem noted_tick (h : vtssMsrpTick env t = some t') : ∃ l, Noted p t l t' := by
  obtain ⟨u, hu, rfl⟩ := Option.map_eq_some_iff.mp h
  obtain ⟨l, hl⟩ := noted_moreWork (p := p) hu
  obtain ⟨l', hl'⟩ := noted_run (p := p) (fun {v v' q} hs => by
    rw [← Option.some_inj.mp hs]
    exact noted_tickPort v q p) (run_tickPort (List.finRange n) u)
  exact ⟨l ++ l', hl.trans hl'⟩

/-! ### Runs -/

/-- The call is none of `mad_participant_event` with the event of `mrp_tx`. -/
def Input.NotTx : Input n → Prop
  | .participantEvent _ e _ => e ≠ .tx
  | _ => True

theorem noted_input {a : Input n} (ha : a.NotTx) (h : a.step env t = some t') :
    ∃ l, Noted p t l t' := by
  cases a with
  | tick => exact noted_tick h
  | moreWork => exact noted_moreWork h
  | attrEvent q ref e =>
    obtain ⟨⟨u, r⟩, hu, rfl⟩ := Option.map_eq_some_iff.mp h
    obtain ⟨l, -, hnoted⟩ := requests_madAttrEvent (p := p) hu
    exact ⟨l, hnoted⟩
  | participantEvent q e he =>
    have hcall : Requests p t (t.record (.madParticipantEvent q e)) :=
      Requests.record (decide_eq_false fun heq => ha heq.2)
    obtain ⟨l, -, hnoted⟩ := hcall.trans (requests_madParticipantEvent h)
    exact ⟨l, hnoted⟩

/-- A run of calls, each with what becomes of the join timer of port `p` in it. -/
def NotedRun (env : Env n) (p : Fin n) : State n → List (Input n × List JoinNote) → State n → Prop
  | t, [], t' => t' = t
  | t, (a, l) :: as, t' => ∃ u, a.step env t = some u ∧ Noted p t l u ∧ NotedRun env p u as t'

theorem NotedRun.noted {as : List (Input n × List JoinNote)} (h : NotedRun env p t as t') :
    Noted p t (as.flatMap Prod.snd) t' := by
  induction as generalizing t with
  | nil =>
    rw [show t' = t from h]
    exact Noted.of_same rfl rfl rfl
  | cons a as ih =>
    obtain ⟨u, -, hnoted, hrest⟩ := h
    exact hnoted.trans (ih hrest)

theorem notedRun_exists {as : List (Input n)} (has : ∀ a ∈ as, a.NotTx)
    (h : Runs.run (Input.step env) t as = some t') :
    ∃ calls : List (Input n × List JoinNote), calls.map Prod.fst = as ∧ NotedRun env p t calls t' := by
  induction as generalizing t with
  | nil => exact ⟨[], rfl, (Option.some_inj.mp h).symm⟩
  | cons a as ih =>
    rw [List.forall_mem_cons] at has
    obtain ⟨u, hu, hrest⟩ := Runs.run_cons_eq_some.mp h
    obtain ⟨l, hl⟩ := noted_input (p := p) has.1 hu
    obtain ⟨calls, hcalls, hrun⟩ := ih has.2 hrest
    exact ⟨(a, l) :: calls, by rw [List.map_cons, hcalls], u, hu, hl, hrun⟩

/-- **Every requested transmission is granted once, on a shared link.**  An opportunity to transmit
is requested while the join timer of port `p` does not run, and calls follow.  If the link is shared,
the request is granted once, at the first poll after 20 ticks, and so is every later one; on a
point-to-point link none is ever granted. -/
theorem requested_granted (env : Env n) (t t' : State n) (p : Fin n) (as : List (Input n))
    (has : ∀ a ∈ as, a.NotTx) (hidle : (t.ports p).joinTimer.running = false)
    (h : Runs.run (Input.step env) (mrpReqTxOpportunity t p) as = some t') :
    ∃ calls : List (Input n × List JoinNote), calls.map Prod.fst = as ∧
      NotedRun env p (mrpReqTxOpportunity t p) calls t' ∧
      ((t.ports p).pointToPoint = false →
        Granted (calls.flatMap Prod.snd) ∧ StartsGranted (calls.flatMap Prod.snd)) ∧
      ((t.ports p).pointToPoint = true → .poll true ∉ calls.flatMap Prod.snd) := by
  obtain ⟨calls, hcalls, hrun⟩ := notedRun_exists (p := p) has h
  have hnoted := hrun.noted
  have hport : (mrpReqTxOpportunity t p).ports p =
      { t.ports p with joinTimer := .counting mrpJointimerPeriod.toNat } := by
    rw [mrpReqTxOpportunity, if_neg (by rw [hidle]; exact Bool.false_ne_true),
      State.setPort_ports_self, counting_period]
  have htimer := hnoted.timer
  rw [hport] at htimer
  refine ⟨calls, hcalls, hrun, fun hshared => ?_, fun hlink => ?_⟩
  · rw [hshared] at htimer
    exact ⟨granted_of_started htimer, granted_of_run htimer⟩
  · rw [hlink] at htimer
    exact not_granted htimer

/-- On a shared link: 20 ticks and a poll after the request. -/
theorem requested_granted_shared :
    ∃ (t' : State 1) (calls : List (Input 1 × List JoinNote)),
      NotedRun ⟨true, fun _ _ => false⟩ 0 (mrpReqTxOpportunity (State.idle 1) 0) calls t' ∧
      Granted (calls.flatMap Prod.snd) ∧ StartsGranted (calls.flatMap Prod.snd) := by
  have hrun : (Runs.run (Input.step ⟨true, fun _ _ => false⟩) (mrpReqTxOpportunity (State.idle 1) 0)
      (List.replicate 20 .tick ++ [.moreWork])).isSome = true := by decide +kernel
  obtain ⟨t', ht'⟩ := Option.isSome_iff_exists.mp hrun
  have hcalls : ∀ a ∈ List.replicate 20 (Input.tick : Input 1) ++ [.moreWork], a.NotTx := by
    intro a ha
    rcases List.mem_append.mp ha with ha | ha
    · rw [List.eq_of_mem_replicate ha]
      trivial
    · rw [List.mem_singleton.mp ha]
      trivial
  obtain ⟨calls, -, hnoted, hshared, -⟩ := requested_granted ⟨true, fun _ _ => false⟩ (State.idle 1) t'
    0 _ hcalls rfl ht'
  exact ⟨t', calls, hnoted, hshared rfl⟩

/-- The only port, on a point-to-point link. -/
def pointToPointLink : State 1 :=
  (State.idle 1).setPort ⟨0, Nat.one_pos⟩ { Participant.idle with pointToPoint := true }

/-- On a point-to-point link 20 ticks and a poll after the request do not transmit. -/
theorem requested_not_granted :
    (pointToPointLink.ports ⟨0, Nat.one_pos⟩).joinTimer.running = false ∧
      (Runs.run (Input.step ⟨true, fun _ _ => false⟩)
        (mrpReqTxOpportunity pointToPointLink ⟨0, Nat.one_pos⟩)
        (List.replicate 20 .tick ++ [.moreWork])).map
          (fun t => t.log.count (.madParticipantEvent ⟨0, Nat.one_pos⟩ .tx)) = some 0 := by
  constructor
  · rfl
  · decide +kernel

end Msrp
