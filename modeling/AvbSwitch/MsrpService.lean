/-
The participant: events for all its machines, transmission and timers.

`mad_event` and `mad_attrtype_event` pass an event to the active machines of a participant,
`mad_participant_event` drives the LeaveAll machine.  `vtss_msrp_more_work` polls the timers
of every port and `vtss_msrp_tick` counts them down.
-/
import AvbSwitch.MsrpMad

namespace Msrp

open Octets

variable {n : ℕ}

/-! ### Events for a participant -/

/-- `mad_machine_active`.  A registration's state is compared with `MRP_MT`, which is the
value of another enumeration. -/
def madMachineActive (m : MadMachine) : Bool :=
  match m.attrDir with
  | .reg => m.regState.index ≠ AttrEvent.mt.index ∧ m.used
  | .dec => m.appState ≠ .VO ∧ m.used

/-- The loop of `mad_event` and `mad_attrtype_event` over the machines of port `p`: an event
for each that is active and selected, until the PDU is full. -/
def machineLoop (env : Env n) (p : Fin n) (selected : MadMachine → Bool) (event : MrpEvent) :
    List (Fin 24) → State n → Option (State n)
  | [], t => some t
  | i :: is, t =>
    if madMachineActive (t.machine p (.slot i)) && selected (t.machine p (.slot i)) then
      match madAttrEvent env t p (.slot i) event with
      | none => none
      | some (t, result) =>
        if result < 0 then some (t.setPort p { t.ports p with nextToProcess := i })
        else machineLoop env p selected event is t
    else machineLoop env p selected event is t

/-- The machines from `next_to_process` on. -/
def nextMachines (t : State n) (p : Fin n) : List (Fin 24) :=
  (List.finRange 24).filter fun i => (t.ports p).nextToProcess ≤ i

/-- `mad_event`. -/
def madEvent (env : Env n) (t : State n) (p : Fin n) (event : MrpEvent) : Option (State n) :=
  machineLoop env p (fun _ => true) event (nextMachines t p) (t.record (.madEvent p event))

/-- `mad_attrtype_event`. -/
def madAttrtypeEvent (env : Env n) (t : State n) (p : Fin n) (attrType : AttributeType)
    (event : MrpEvent) : Option (State n) :=
  machineLoop env p (fun m => m.attributeType = attrType) event (nextMachines t p) t

/-- The timer of a LeaveAll action. -/
def leaveallTimerAction (t : State n) (p : Fin n) (action : Action) : State n :=
  if action &&& Action.timerMask = Action.startLeaveallTimer then
    (t.setPort p { t.ports p with leaveallTimer := ⟨true, mrpLeaveallTimerPeriod⟩ }).record
      (.startLeaveallTimer p (t.ports p).leaveTimer (t.ports p).leaveTimer)
  else t

/-- `mad_participant_event`. -/
def madParticipantEvent (env : Env n) (t : State n) (p : Fin n) (event : MrpEvent) :
    Option (State n) :=
  let t := t.record (.madParticipantEvent p event)
  let entry := leaveallEntry (t.ports p).leaveallState event
  if entry.state = .invalid then some t
  else
    let sent := if entry.action &&& Action.mask = Action.sLa then
      madEvent env (t.setPort p { t.ports p with leaveall := true }) p .rLa
      else some t
    sent.map fun t =>
      let t := leaveallTimerAction t p entry.action
      let t := if entry.action &&& Action.reqTxMask ≠ 0 then mrpReqTxOpportunity t p else t
      t.setPort p { t.ports p with leaveallState := entry.state }

/-! ### Transmission -/

/-- `MAX_MRP_MSG_SIZE` and `sizeof(mrp_footer)`. -/
def maxMrpMsgSize : ℕ := 4 + 25 + 1 + 2

def mrpFooterSize : ℕ := 2

/-- `mrp_pdu_full`. -/
def mrpPduFull (sendPtr : ℕ) : Bool := mrpSendBufferSize < sendPtr + maxMrpMsgSize + mrpFooterSize

/-- `mrp_tx_opportunity`, the port and whether it transmits now.  The rate test negates the
address of a function, which is never 0. -/
def mrpTxOpportunity (pp : Participant) : Participant × Bool :=
  if pp.joinTimer.running then
    if pp.joinTimer.timeout = 0 then
      ({ pp with joinTimer := { pp.joinTimer with running := false } }, !pp.pointToPoint)
    else (pp, false)
  else if pp.pointToPoint then (pp, false)
  else ({ pp with joinTimer := ⟨true, mrpJointimerPeriod⟩ }, false)

/-- `mrp_tx`, up to the frame that the driver is given.  Before `send_ptr` is first set there
is nothing to compare it with. -/
def mrpTx (env : Env n) (t : State n) (p : Fin n) : Option (State n) :=
  (madParticipantEvent env t p .tx).bind fun t =>
    match (t.ports p).sendPtr with
    | none => none
    | some ptr =>
      let event : MrpEvent :=
        if (t.ports p).leaveall then (if mrpPduFull ptr then .txLaf else .txLa) else .tx
      (madEvent env t p event).bind fun t =>
        match (t.ports p).sendPtr with
        | none => none
        | some ptr =>
          -- from an empty buffer nothing is sent, and it stays as it is
          (mrpPduExSend ⟨(t.ports p).sendBuf, ptr⟩).map fun b =>
            t.setPort p { t.ports p with sendBuf := b.2.sendBuf, sendPtr := some b.2.sendPtr }

/-! ### Timers -/

/-- What `vtss_msrp_more_work` does about the leave timer of a port. -/
def pollLeaveTimer (env : Env n) (t : State n) (p : Fin n) : Option (State n) :=
  let timer := (t.ports p).leaveTimer
  if timer.running ∧ timer.timeout = 0 then
    madEvent env (t.setPort p { t.ports p with leaveTimer := { timer with running := false } }) p
      .leaveTimer
  else some t

/-- What it does about the LeaveAll timer. -/
def pollLeaveallTimer (env : Env n) (t : State n) (p : Fin n) : Option (State n) :=
  let timer := (t.ports p).leaveallTimer
  if timer.running ∧ timer.timeout = 0 then madParticipantEvent env t p .leaveallTimer else some t

/-- One turn of the loop of `vtss_msrp_more_work`. -/
def workPort (env : Env n) (t : State n) (p : Fin n) : Option (State n) :=
  (pollLeaveTimer env (t.record (.poll p)) p).bind fun t =>
    (pollLeaveallTimer env t p).bind fun t =>
      let (pp, opportunity) := mrpTxOpportunity (t.ports p)
      let t := t.setPort p pp
      if opportunity then mrpTx env t p else some t

/-- `vtss_msrp_more_work`. -/
def vtssMsrpMoreWork (env : Env n) (t : State n) : Option (State n) :=
  (List.finRange n).foldlM (workPort env) t

/-- A running timer that is counted down. -/
def TimersContext.countDown (c : TimersContext) : TimersContext :=
  if c.running ∧ 0 < c.timeout then { c with timeout := c.timeout - 1 } else c

/-- A running timer that is stopped when it has come to 0. -/
def TimersContext.stopAtZero (c : TimersContext) : TimersContext :=
  if c.running ∧ c.timeout = 0 then { c with running := false } else c

/-- One turn of the loop of `vtss_msrp_tick`.  The join timer is not stopped. -/
def tickPort (t : State n) (p : Fin n) : State n :=
  let pp := t.ports p
  (t.setPort p { pp with
    joinTimer := pp.joinTimer.countDown
    leaveTimer := pp.leaveTimer.countDown.stopAtZero
    leaveallTimer := pp.leaveallTimer.countDown.stopAtZero }).record (.tick p)

/-- `vtss_msrp_tick`.  `finish_msrp_work` is `vtss_msrp_more_work`. -/
def vtssMsrpTick (env : Env n) (t : State n) : Option (State n) :=
  (vtssMsrpMoreWork env t).map fun t => (List.finRange n).foldl tickPort t

end Msrp
