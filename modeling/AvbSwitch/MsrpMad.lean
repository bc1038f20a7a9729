/-
The machines of an attribute: `mad_attr_event` and what it calls.

`none` stands for undefined behaviour: an index outside a table, a pointer that is NULL, a
result that is used although the function has none.

A declaration (`MRP_DIR_DEC`) has no registrar, so that `mad_attr_event` is its applicant
part (`applicant`).  The propagations call `mad_attr_event` for declarations only, which
is why they can be defined before it; `madAttrEvent_dec` closes the circle.
-/
import AvbSwitch.MsrpState

namespace Msrp

open Octets

variable {n : ℕ}

/-! ### The applicant -/

/-- `MRP_JOINTIMER_PERIOD_CENTISECONDS`. -/
def mrpJointimerPeriod : ℤ := 20

/-- `MRP_LEAVETIMER_PERIOD_CENTISECONDS`. -/
def mrpLeavetimerPeriod : ℤ := 80

/-- `MRP_LEAVEALL_TIMER_PERIOD_CENTISECONDS`. -/
def mrpLeaveallTimerPeriod : ℤ := 1000

def mrpReqTxOpportunity (t : State n) (p : Fin n) : State n :=
  if (t.ports p).joinTimer.running then t
  else t.setPort p { t.ports p with joinTimer := ⟨true, mrpJointimerPeriod⟩ }

/-- The event that an action of the applicant sends, if it sends one. -/
def sentEvent (registered : Bool) (action : Action) : Option AttrEvent :=
  if action &&& Action.mask = Action.sJoin then some (if registered then .joinIn else .joinMt)
  else if action &&& Action.mask = Action.sNew then some .new
  else if action &&& Action.mask = Action.sLv then some .lv
  else if action &&& Action.mask = Action.s then some (if registered then .in else .mt)
  else none

/-- `doTx` for a machine of port `p`.  Merging a Talker Advertise or a Listener reads the
stream information that `attribute_info` points to. -/
def doTxMachine (env : Env n) (t : State n) (p : Fin n) (m : MadMachine) (vector : AttrEvent) :
    Option SendBuffer :=
  match (t.ports p).sendPtr, m.attributeInfo with
  | none, _ => none
  | some ptr, some i =>
    doTx env.charSigned ⟨(t.ports p).sendBuf, ptr⟩ m.attributeType (t.streamInfoVars i) vector.index
  | some ptr, none =>
    if m.attributeType = .talkerAdvertise ∨ m.attributeType = .listener then none
    else doTx env.charSigned ⟨(t.ports p).sendBuf, ptr⟩ m.attributeType .zero vector.index

/-- The transition of the applicant table with the conditions of its notes; `none` where
there is no transition. -/
def applicantTrans (pointToPoint : Bool) (m : MadMachine) (event : MrpEvent) :
    Option (StateTrans ApplicantState) :=
  let entry := applicantEntry m.appState event
  if entry.state = .invalid then none
  else if (m.appState = .VO ∨ m.appState = .VP) ∧ event = .rJoinIn ∧ pointToPoint then none
  else if m.appState = .AA ∧ event = .rIn ∧ ¬ pointToPoint then none
  else if m.appState = .AN ∧ event = .tx ∧ m.regState ≠ .IN then
    some ⟨.AA, entry.action ||| Action.reqTx⟩
  else some entry

def State.setAppState (t : State n) (p : Fin n) (ref : MachineRef) (s : ApplicantState) : State n :=
  t.setMachine p ref ((t.machine p ref).withAppState s)

/-- `mad_attr_event` from the label `applicant` on, with its result. -/
def applicant (env : Env n) (t : State n) (p : Fin n) (ref : MachineRef) (event : MrpEvent) :
    Option (State n × ℤ) :=
  let m := t.machine p ref
  match applicantTrans (t.ports p).pointToPoint m event with
  | none => some (t, 0)
  | some ⟨state, action⟩ =>
    if m.appMgt = .nonParticipant then some (t.setAppState p ref state, 0)
    else
      let finish (t : State n) : State n :=
        (if action &&& Action.reqTxMask ≠ 0 then mrpReqTxOpportunity t p else t).setAppState p ref
          state
      match sentEvent (m.regState = .IN ∨ m.regMgt ≠ .normalRegistration) action with
      | none => some (finish t, 0)
      | some vector =>
        match doTxMachine env t p m vector with
        | none => none
        | some b =>
          let t' := t.setPort p { t.ports p with sendBuf := b.sendBuf, sendPtr := some b.sendPtr }
          if env.doTxNegative t p then some (mrpReqTxOpportunity t' p, -1)
          else some (finish t', 0)

/-- `mad_attr_event` for a declaration. -/
def declarationEvent (env : Env n) (t : State n) (p : Fin n) (ref : MachineRef)
    (event : MrpEvent) : Option (State n × ℤ) :=
  applicant env (t.record (.madAttrEvent p ref event)) p ref event

/-- `msrp_mad_join_req`. -/
def msrpMadJoinReq (env : Env n) (t : State n) (p : Fin n) (ref : MachineRef) (new : Bool) :
    Option (State n) :=
  (declarationEvent env t p ref (if new then .new else .join)).map Prod.fst

/-- `msrp_mad_leave_req`. -/
def msrpMadLeaveReq (env : Env n) (t : State n) (p : Fin n) (ref : MachineRef) :
    Option (State n) :=
  (declarationEvent env t p ref .lv).map Prod.fst

/-! ### Reservations -/

/-- `msrp_find_reservation_by_declaration`.  The type is compared as an `unsigned`. -/
def msrpFindReservationByDeclaration (t : State n) (id : UInt32 × UInt32) (port : Fin n)
    (attrSubType : ℤ) : Option (Fin 30) :=
  (List.finRange 30).find? fun i => (t.reservations i).used ∧ (t.reservations i).id = id ∧
    (t.reservations i).declType = UInt32.ofInt attrSubType ∧ (t.reservations i).pPort = some port

/-- `msrp_get_free_reservation`, as far as it returns something. -/
def msrpGetFreeReservation (t : State n) : Option (Fin 30) :=
  (List.finRange 30).find? fun i => (t.reservations i).used = false

def State.setReservation (t : State n) (i : Fin 30) (r : Reservation n) : State n :=
  { t with reservations := Function.update t.reservations i r }

/-- What `msrp_make_reservation` writes. -/
def madeReservation (info : StreamInfo) (p : Fin n) (attrType : AttributeType)
    (fourPackedEvent : ℤ) : Reservation n :=
  let r : Reservation n := { Reservation.zero n with
    used := true
    pPort := some p
    id := info.streamID
    declType := UInt32.ofNat attrType.index
    accumulatedLatency := info.accumulatedLatency }
  match attrType with
  | .talkerAdvertise => r
  | .talkerFailed => { r with failureCode := UInt32.ofNat info.failureCode.toNat }
  | .listener => { r with direction := 1, fourPackedEvent := fourPackedEvent }
  | .domainVector => { Reservation.zero n with used := true }

/-- `msrp_make_reservation`. -/
def msrpMakeReservation (t : State n) (info : StreamInfo) (p : Fin n) (attrType : AttributeType)
    (fourPackedEvent : ℤ) : Option (State n) :=
  (msrpGetFreeReservation t).map fun i =>
    t.setReservation i (madeReservation info p attrType fourPackedEvent)

/-- `msrp_mad_join_ind`.  Its first condition on the type is always true, so that every
stream type gets a reservation in the same way. -/
def msrpMadJoinInd (t : State n) (p : Fin n) (m : MadMachine) : Option (State n × ℤ) :=
  if m.attributeType = .domainVector then some (t, 1)
  else match m.attributeInfo with
    | none => some (t, -1)
    | some i =>
      let info := t.streamInfoVars i
      match msrpFindReservationByDeclaration t info.streamID p m.attributeType.index with
      | some _ => some (t, 1)
      | none =>
        (msrpMakeReservation t info p m.attributeType m.fourVectorParameter).map fun t => (t, 1)

/-- The `decl_type` that `msrp_mad_leave_indication` looks for: a Listener's is taken for
its four-packed event. -/
def leaveSubType (m : MadMachine) : ℤ :=
  if m.attributeType = .listener then m.fourVectorParameter else m.attributeType.index

/-- `msrp_mad_leave_indication`. -/
def msrpMadLeaveIndication (t : State n) (p : Fin n) (m : MadMachine) : Option (State n) :=
  if m.attributeType = .domainVector then some t
  else match m.attributeInfo with
    | none => if ∀ i, (t.reservations i).used = false then some t else none
    | some i =>
      match msrpFindReservationByDeclaration t (t.streamInfoVars i).streamID p (leaveSubType m) with
      | none => some t
      | some j => some (t.setReservation j { t.reservations j with used := false })

/-! ### Propagation -/

/-- `find_matching_dec_attribute_by_stream_info`, which does not look at the type. -/
def findMatchingDecAttributeByStreamInfo (t : State n) (id : UInt32 × UInt32) (p : Fin n) :
    Option (Fin 24) :=
  (List.finRange 24).find? fun i =>
    (t.machine p (.slot i)).streamID = id ∧ (t.machine p (.slot i)).attrDir = .dec

/-- What a leave does to one port. -/
def leavePort (env : Env n) (id : UInt32 × UInt32) (t : State n) (q : Fin n) : Option (State n) :=
  match findMatchingDecAttributeByStreamInfo t id q with
  | none => some t
  | some i => msrpMadLeaveReq env t q (.slot i)

/-- `msrp_mad_leave_propagation`.  The port of the machine itself comes first, for every
type: the condition on the type is always true. -/
def msrpMadLeavePropagation (env : Env n) (t : State n) (p : Fin n) (m : MadMachine) :
    Option (State n) :=
  if m.attributeType = .domainVector then some t
  else match m.attributeInfo with
    | none => some t
    | some i =>
      let id := (t.streamInfoVars i).streamID
      (p :: (List.finRange n).filter (· ≠ p)).foldlM (leavePort env id) t

/-- `get_attribute_app`.  Beyond the machines of the participant there is nothing to be
found. -/
def getAttributeApp (t : State n) (p : Fin n) : Option (State n × Fin 24) :=
  ((List.finRange 24).find? fun i => (t.machine p (.slot i)).used = false).map fun i =>
    (t.setMachine p (.slot i)
      { t.machine p (.slot i) with appState := .VO, attrDir := .dec, used := true }, i)

/-- `mrp_attribute_init`. -/
def mrpAttributeInit (t : State n) (p : Fin n) (ref : MachineRef) (attrType : AttributeType)
    (fourPackedEvent : ℤ) (info : Fin 10) : State n :=
  t.setMachine p ref { t.machine p ref with
    attributeType := attrType
    attributeInfo := some info
    fourVectorParameter := fourPackedEvent
    isFourVector := if fourPackedEvent ≠ 0 then true else (t.machine p ref).isFourVector
    streamID := (t.streamInfoVars info).streamID }

/-- `msrp_check_port_bandwidth`. -/
def msrpCheckPortBandwidth : ℤ := 1

/-- The type that a registration is declared with on the other ports, and its four-packed
event. -/
def propagatedAs (m : MadMachine) : AttributeType × ℤ :=
  match m.attributeType with
  | .talkerAdvertise => (if msrpCheckPortBandwidth > 0 then .talkerAdvertise else .talkerFailed, 0)
  | .listener => (.listener, m.fourVectorParameter)
  | attrType => (attrType, 0)

/-- What a join does to one of the other ports. -/
def joinPort (env : Env n) (m : MadMachine) (info : Fin 10) (new : Bool) (t : State n) (q : Fin n) :
    Option (State n) :=
  if m.attributeType = .listener ∧
      msrpFindReservationByDeclaration t (t.streamInfoVars info).streamID q
        AttributeType.talkerAdvertise.index = none then some t
  else match getAttributeApp t q with
    | none => none
    | some (t, i) =>
      msrpMadJoinReq env (mrpAttributeInit t q (.slot i) (propagatedAs m).1 (propagatedAs m).2 info)
        q (.slot i) new

/-- `msrp_map_join_propagate`.  The bandwidth that it sets for a Listener is not part of
the state. -/
def msrpMapJoinPropagate (env : Env n) (t : State n) (p : Fin n) (m : MadMachine) (new : Bool) :
    Option (State n) :=
  if m.attributeType = .domainVector then some t
  else match m.attributeInfo with
    | none => some t
    | some i => ((List.finRange n).filter (· ≠ p)).foldlM (joinPort env m i new) t

/-! ### The registrar -/

/-- The action raises a New or a Join indication. -/
def IsJoin (action : Action) : Prop :=
  action &&& Action.mask = Action.new ∨ action &&& Action.mask = Action.join

instance (action : Action) : Decidable (IsJoin action) :=
  inferInstanceAs (Decidable (_ ∨ _))

/-- The action raises a Leave indication. -/
def IsLeave (action : Action) : Prop := action &&& Action.mask = Action.lv

instance (action : Action) : Decidable (IsLeave action) := inferInstanceAs (Decidable (_ = _))

/-- `port->reg_failures++`. -/
def State.countRegFailure (t : State n) (p : Fin n) : State n :=
  t.setPort p { t.ports p with regFailures := (t.ports p).regFailures + 1 }

/-- The indications of a registrar action. -/
def registrarIndication (env : Env n) (t : State n) (p : Fin n) (ref : MachineRef)
    (action : Action) : Option (State n) :=
  let m := t.machine p ref
  if IsJoin action then
    match msrpMadJoinInd t p m with
    | none => none
    | some (t, result) =>
      if result < 0 then some (t.countRegFailure p)
      else msrpMapJoinPropagate env t p m (action &&& Action.mask = Action.new)
  else if IsLeave action then
    (msrpMadLeaveIndication t p m).bind fun t => msrpMadLeavePropagation env t p m
  else some t

/-- The timer of a registrar action: what it starts is the leave timer, what it sets is
the timeout of the LeaveAll timer. -/
def registrarTimer (t : State n) (p : Fin n) (action : Action) : State n :=
  if action &&& Action.timerMask = Action.startLeaveTimer ∧ (t.ports p).leaveTimer.running = false then
    let before := (t.ports p).leaveallTimer
    let after : TimersContext := { before with timeout := mrpLeavetimerPeriod }
    (t.setPort p { t.ports p with
      leaveallTimer := after
      leaveTimer := { (t.ports p).leaveTimer with running := true } }).record
        (.startLeaveTimer p before after)
  else t

def State.setRegState (t : State n) (p : Fin n) (ref : MachineRef) (s : RegistrarState) : State n :=
  t.setMachine p ref ((t.machine p ref).withRegState s)

/-- `mad_attr_event` up to the label `applicant`. -/
def registrar (env : Env n) (t : State n) (p : Fin n) (ref : MachineRef) (event : MrpEvent) :
    Option (State n) :=
  let entry := registrarEntry (t.machine p ref).regState event
  if entry.state = .invalid then some t
  else (registrarIndication env t p ref entry.action).map fun t =>
    (registrarTimer t p entry.action).setRegState p ref entry.state

/-- `mad_attr_event`. -/
def madAttrEvent (env : Env n) (t : State n) (p : Fin n) (ref : MachineRef) (event : MrpEvent) :
    Option (State n × ℤ) :=
  if (t.machine p ref).attrDir = .dec then declarationEvent env t p ref event
  else
    (registrar env (t.record (.madAttrEvent p ref event)) p ref event).bind fun t =>
      applicant env t p ref event

/-- `mad_attr_event` for a declaration is what the propagations use. -/
theorem madAttrEvent_dec {env : Env n} {t : State n} {p : Fin n} {ref : MachineRef}
    {event : MrpEvent} (h : (t.machine p ref).attrDir = .dec) :
    madAttrEvent env t p ref event = declarationEvent env t p ref event := if_pos h

/-! ### Idle states -/

/-- A participant of a port without machines, before anything is sent. -/
def Participant.idle : Participant where
  pointToPoint := false
  regFailures := 0
  machine _ := .zero
  leaveallState := .P
  joinTimer := ⟨false, 0⟩
  leaveTimer := ⟨false, 0⟩
  leaveallTimer := ⟨false, mrpLeaveallTimerPeriod⟩
  leaveall := false
  sendBuf _ := 0
  sendPtr := some firstMsg
  nextToProcess := 0

/-- A state without machines, streams and reservations. -/
def State.idle (n : ℕ) : State n where
  ports _ := .idle
  streamInfoVars _ := .zero
  reservations _ := .zero n
  log := []

/-- A machine for the stream in the first entry, which is `(0, 0)` in the idle state. -/
def MadMachine.ofStream (t : AttributeType) (dir : AttributeDirection) : MadMachine :=
  { MadMachine.zero with
    attributeType := t, attrDir := dir, attributeInfo := some 0, used := true, appState := .QA }

/-- The first entry of the array. -/
def MachineRef.first : MachineRef := .slot 0

/-- A Talker in `IN` on the only port. -/
def registeredTalker : State 1 :=
  (State.idle 1).setMachine 0 (.slot 0)
    ((MadMachine.ofStream .talkerAdvertise .reg).withRegState .IN)

end Msrp
