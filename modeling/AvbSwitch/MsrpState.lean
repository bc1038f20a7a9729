/-
The state of the MSRP module.

Every port has one participant and they point to each other, so that they are one record
here and both go by the port's index.  Machines are named by where they are stored
(`MachineRef`), stream information by its index in `stream_info_vars`.  That array has five
entries, but the loops over it run to ten: the entries from `streamCount` on stand for
whatever lies behind it in memory.

The log is not in the source.  It records the calls of the event functions and what becomes
of the timers.
-/
import AvbSwitch.SendBuffer

namespace Msrp

open Octets

/-- `enum mrp_applicant_mgt`. -/
inductive ApplicantMgt
  | normalParticipant | nonParticipant
  deriving DecidableEq, Repr

/-- `enum mrp_registrar_mgt`. -/
inductive RegistrarMgt
  | normalRegistration | fixedRegistration | forbiddenRegistration
  deriving DecidableEq, Repr

/-- `enum mrp_attribute_direction`: a registration or a declaration. -/
inductive AttributeDirection
  | reg | dec
  deriving DecidableEq, Repr

/-- `struct vtss_timers_context`. -/
structure TimersContext where
  running : Bool
  timeout : ℤ
  deriving DecidableEq, Repr

/-- The entries of `stream_info_vars`. -/
def streamCount : ℕ := 5

/-- `struct mad_machine`. -/
structure MadMachine where
  appState : ApplicantState
  regState : RegistrarState
  attributeType : AttributeType
  appMgt : ApplicantMgt
  regMgt : RegistrarMgt
  isFourVector : Bool
  isDomainAttr : Bool
  sRclassID : UInt8
  sRclassPriority : UInt8
  /-- `SRclassVID`, its two octets -/
  sRclassVID : UInt8 × UInt8
  fourVectorParameter : ℤ
  attrDir : AttributeDirection
  /-- `attribute_info`, which points into `stream_info_vars` if it is not NULL -/
  attributeInfo : Option (Fin 10)
  used : Bool
  streamID : UInt32 × UInt32
  deriving DecidableEq, Repr

/-- A machine before it is first written. -/
def MadMachine.zero : MadMachine where
  appState := .invalid
  regState := .invalid
  attributeType := .talkerAdvertise
  appMgt := .normalParticipant
  regMgt := .normalRegistration
  isFourVector := false
  isDomainAttr := false
  sRclassID := 0
  sRclassPriority := 0
  sRclassVID := (0, 0)
  fourVectorParameter := 0
  attrDir := .reg
  attributeInfo := none
  used := false
  streamID := (0, 0)

def MadMachine.withAppState (m : MadMachine) (s : ApplicantState) : MadMachine :=
  { m with appState := s }

def MadMachine.withRegState (m : MadMachine) (s : RegistrarState) : MadMachine :=
  { m with regState := s }

/-- A machine without its applicant state. -/
def MadMachine.core (m : MadMachine) : MadMachine := m.withAppState .invalid

/-- The machines of a participant: `machines[i]`, `domain_attr_sent` and
`domain_attr_recv`. -/
inductive MachineRef
  | slot (i : Fin 24)
  | domainAttrSent
  | domainAttrRecv
  deriving DecidableEq, Repr

/-- `struct vtss_mrp_port` and `struct vtss_mrp_participant`. -/
structure Participant where
  pointToPoint : Bool
  regFailures : ℤ
  machine : MachineRef → MadMachine
  leaveallState : LeaveallState
  joinTimer : TimersContext
  leaveTimer : TimersContext
  leaveallTimer : TimersContext
  leaveall : Bool
  sendBuf : Mem
  /-- `send_ptr`, as an offset into `send_buf` if it is not NULL -/
  sendPtr : Option ℕ
  nextToProcess : ℕ

/-- `struct reservations_info`. -/
structure Reservation (n : ℕ) where
  id : UInt32 × UInt32
  direction : ℕ
  declType : UInt32
  accumulatedLatency : UInt32
  failureCode : UInt32
  streamsAge : UInt32
  pPort : Option (Fin n)
  fourPackedEvent : ℤ
  used : Bool
  deriving DecidableEq, Repr

/-- What `memset` leaves of an entry. -/
def Reservation.zero (n : ℕ) : Reservation n := ⟨(0, 0), 0, 0, 0, 0, 0, none, 0, false⟩

/-- An entry of the log. -/
inductive Record (n : ℕ)
  | madAttrEvent (p : Fin n) (ref : MachineRef) (event : MrpEvent)
  | madEvent (p : Fin n) (event : MrpEvent)
  | madParticipantEvent (p : Fin n) (event : MrpEvent)
  /-- the leave timer is started; the LeaveAll timer before and after -/
  | startLeaveTimer (p : Fin n) (before after : TimersContext)
  /-- the LeaveAll timer is started; the leave timer before and after -/
  | startLeaveallTimer (p : Fin n) (before after : TimersContext)
  /-- `vtss_msrp_more_work` comes to this port -/
  | poll (p : Fin n)
  /-- `vtss_msrp_tick` comes to the timers of this port -/
  | tick (p : Fin n)
  deriving DecidableEq, Repr

/-- The ports of `MSRP` and the two static tables. -/
structure State (n : ℕ) where
  ports : Fin n → Participant
  streamInfoVars : Fin 10 → StreamInfo
  reservations : Fin 30 → Reservation n
  log : List (Record n)

/-- What the source leaves open: whether a plain `char` is signed, and whether what the
missing `return` of `doTx` leaves in its place is negative. -/
structure Env (n : ℕ) where
  charSigned : Bool
  doTxNegative : State n → Fin n → Bool

/-! ### Updates -/

section Updates

variable {n : ℕ} {t : State n} {p q : Fin n} {ref x : MachineRef} {m : MadMachine} {pp : Participant}

def Participant.setMachine (pp : Participant) (ref : MachineRef) (m : MadMachine) : Participant :=
  { pp with machine := Function.update pp.machine ref m }

def State.setPort (t : State n) (p : Fin n) (pp : Participant) : State n :=
  { t with ports := Function.update t.ports p pp }

def State.machine (t : State n) (p : Fin n) (ref : MachineRef) : MadMachine :=
  (t.ports p).machine ref

def State.setMachine (t : State n) (p : Fin n) (ref : MachineRef) (m : MadMachine) : State n :=
  t.setPort p ((t.ports p).setMachine ref m)

def State.record (t : State n) (r : Record n) : State n := { t with log := t.log ++ [r] }

@[simp] theorem Participant.setMachine_machine_self : (pp.setMachine ref m).machine ref = m := by
  simp only [Participant.setMachine, Function.update_self]

@[simp] theorem Participant.setMachine_machine_of_ne (h : x ≠ ref) :
    (pp.setMachine ref m).machine x = pp.machine x := by
  simp only [Participant.setMachine, Function.update_of_ne h]

@[simp] theorem State.setPort_ports_self : (t.setPort p pp).ports p = pp := by
  simp only [State.setPort, Function.update_self]

@[simp] theorem State.setPort_ports_of_ne (h : q ≠ p) : (t.setPort p pp).ports q = t.ports q := by
  simp only [State.setPort, Function.update_of_ne h]

@[simp] theorem State.setPort_streamInfoVars :
    (t.setPort p pp).streamInfoVars = t.streamInfoVars := rfl

@[simp] theorem State.setPort_reservations : (t.setPort p pp).reservations = t.reservations := rfl

@[simp] theorem State.setPort_log : (t.setPort p pp).log = t.log := rfl

@[simp] theorem State.record_ports {r : Record n} : (t.record r).ports = t.ports := rfl

@[simp] theorem State.record_streamInfoVars {r : Record n} :
    (t.record r).streamInfoVars = t.streamInfoVars := rfl

@[simp] theorem State.record_reservations {r : Record n} :
    (t.record r).reservations = t.reservations := rfl

@[simp] theorem State.record_log {r : Record n} : (t.record r).log = t.log ++ [r] := rfl

@[simp] theorem State.record_machine {r : Record n} : (t.record r).machine = t.machine := rfl

@[simp] theorem State.setMachine_machine_self : (t.setMachine p ref m).machine p ref = m := by
  rw [State.machine, State.setMachine, State.setPort_ports_self,
    Participant.setMachine_machine_self]

/-- The machines of a state, after one of them has been set. -/
theorem State.setMachine_machine :
    (t.setMachine p ref m).machine q x = if q = p ∧ x = ref then m else t.machine q x := by
  by_cases hq : q = p
  · subst hq
    by_cases hx : x = ref
    · subst hx
      rw [if_pos ⟨rfl, rfl⟩, State.setMachine_machine_self]
    · rw [if_neg fun h => hx h.2, State.machine, State.setMachine, State.setPort_ports_self,
        Participant.setMachine_machine_of_ne hx]
      rfl
  · rw [if_neg fun h => hq h.1, State.machine, State.setMachine, State.setPort_ports_of_ne hq]
    rfl

@[simp] theorem Participant.setMachine_setMachine {m' : MadMachine} :
    (pp.setMachine ref m).setMachine ref m' = pp.setMachine ref m' := by
  simp only [Participant.setMachine, Function.update_idem]

@[simp] theorem State.setPort_setPort {pp' : Participant} :
    (t.setPort p pp).setPort p pp' = t.setPort p pp' := by
  simp only [State.setPort, Function.update_idem]

@[simp] theorem State.setMachine_setMachine {m' : MadMachine} :
    (t.setMachine p ref m).setMachine p ref m' = t.setMachine p ref m' := by
  rw [State.setMachine, State.setMachine, State.setPort_ports_self,
    Participant.setMachine_setMachine, State.setPort_setPort]
  rfl

@[simp] theorem State.setMachine_streamInfoVars :
    (t.setMachine p ref m).streamInfoVars = t.streamInfoVars := rfl

@[simp] theorem State.setMachine_reservations :
    (t.setMachine p ref m).reservations = t.reservations := rfl

@[simp] theorem State.setMachine_log : (t.setMachine p ref m).log = t.log := rfl

end Updates

end Msrp
