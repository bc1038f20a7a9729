/-
The MRP state tables of `vtss_msrp.c`, as initialised.

The three tables are positional: a row per state, an entry per `enum mrp_event`
value, entries and rows that the initialiser leaves out being zero, that is
`invalid` with no action.  The action byte keeps the source's encoding: bits 0-3
a message or an indication, bits 4-6 a timer, bit 7 a request to transmit.
-/
import AvbSwitch.Runs
import Mathlib.Data.Fintype.Basic

namespace Msrp

/-- `enum mrp_event`. -/
inductive MrpEvent
  | unkown | new | join | lv
  | rNew | rJoinIn | rIn | rJoinMt | rMt | rLv | rLa
  | tx | txLa | txLaf
  | flush | redeclare | periodic | periodicTimer | periodicEnabled | periodicDisabled
  | leaveTimer | leaveallTimer
  deriving DecidableEq, Repr

instance : Fintype MrpEvent where
  elems := {.unkown, .new, .join, .lv, .rNew, .rJoinIn, .rIn, .rJoinMt, .rMt, .rLv, .rLa,
    .tx, .txLa, .txLaf, .flush, .redeclare, .periodic, .periodicTimer,
    .periodicEnabled, .periodicDisabled, .leaveTimer, .leaveallTimer}
  complete := by intro e; cases e <;> decide

/-- The value of the enumerator, the column it selects. -/
def MrpEvent.index (e : MrpEvent) : ℕ := e.ctorIdx

/-- `enum mrp_applicant_state`. -/
inductive ApplicantState
  | invalid | VO | VP | VN | AN | AA | QA | LA | AO | QO | AP | QP | LO
  deriving DecidableEq, Repr

instance : Fintype ApplicantState where
  elems := {.invalid, .VO, .VP, .VN, .AN, .AA, .QA, .LA, .AO, .QO, .AP, .QP, .LO}
  complete := by intro s; cases s <;> decide

def ApplicantState.index (s : ApplicantState) : ℕ := s.ctorIdx

/-- `enum mrp_registrar_state`. -/
inductive RegistrarState
  | invalid | IN | LV | L3 | L2 | L1 | MT
  deriving DecidableEq, Repr

instance : Fintype RegistrarState where
  elems := {.invalid, .IN, .LV, .L3, .L2, .L1, .MT}
  complete := by intro s; cases s <;> decide

def RegistrarState.index (s : RegistrarState) : ℕ := s.ctorIdx

/-- `enum mrp_leaveall_state`. -/
inductive LeaveallState
  | invalid | A | P
  deriving DecidableEq, Repr

instance : Fintype LeaveallState where
  elems := {.invalid, .A, .P}
  complete := by intro s; cases s <;> decide

def LeaveallState.index (s : LeaveallState) : ℕ := s.ctorIdx

/-- The action byte of a table entry. -/
abbrev Action := ℕ

namespace Action

/-! `enum mrp_action` and its masks. -/

def new : Action := 0x01
def join : Action := 0x02
def lv : Action := 0x03
def sNew : Action := 0x04
def sJoin : Action := 0x05
def sLv : Action := 0x06
def s : Action := 0x07
def sLa : Action := 0x08
def startLeaveTimer : Action := 0x10
def stopLeaveTimer : Action := 0x20
def startLeaveallTimer : Action := 0x30
def reqTx : Action := 0x80
def mask : ℕ := 0x0f
def timerMask : ℕ := 0x70
def reqTxMask : ℕ := 0x80

end Action

/-- `mrp_state_trans`, for the states `σ` of one of the machines. -/
structure StateTrans (σ : Type) where
  state : σ
  action : Action
  deriving DecidableEq, Repr

/-- `mrp_applicant_state_table`: one positional row for each applicant state. -/
def mrpApplicantStateTable : List (List (StateTrans ApplicantState)) :=
  [[⟨.invalid, 0⟩],
   [⟨.invalid, 0⟩, ⟨.VN, Action.reqTx⟩, ⟨.VP, Action.reqTx⟩, ⟨.VO, 0⟩, ⟨.VO, 0⟩, ⟨.AO, 0⟩,
    ⟨.VO, 0⟩, ⟨.VO, 0⟩, ⟨.VO, 0⟩, ⟨.LO, Action.reqTx⟩, ⟨.LO, Action.reqTx⟩,
    ⟨.LO, Action.reqTx⟩, ⟨.VO, 0⟩, ⟨.VO, 0⟩, ⟨.LO, Action.reqTx⟩, ⟨.LO, Action.reqTx⟩],
   [⟨.invalid, 0⟩, ⟨.VN, Action.reqTx⟩, ⟨.VP, 0⟩, ⟨.VO, 0⟩, ⟨.VP, 0⟩, ⟨.AP, Action.reqTx⟩,
    ⟨.VP, 0⟩, ⟨.VP, 0⟩, ⟨.VP, 0⟩, ⟨.VP, 0⟩, ⟨.VP, 0⟩, ⟨.VP, 0⟩, ⟨.VP, 0⟩,
    ⟨.AA, Action.sJoin ||| Action.reqTx⟩, ⟨.AA, Action.s ||| Action.reqTx⟩,
    ⟨.VP, Action.reqTx⟩],
   [⟨.invalid, 0⟩, ⟨.VN, 0⟩, ⟨.LA, Action.reqTx⟩, ⟨.VN, 0⟩, ⟨.VN, 0⟩, ⟨.VN, 0⟩, ⟨.VN, 0⟩,
    ⟨.VN, 0⟩, ⟨.VN, 0⟩, ⟨.VN, 0⟩, ⟨.VN, 0⟩, ⟨.VN, 0⟩, ⟨.AN, Action.sNew ||| Action.reqTx⟩,
    ⟨.AN, Action.sNew ||| Action.reqTx⟩, ⟨.VN, Action.reqTx⟩],
   [⟨.invalid, 0⟩, ⟨.AN, 0⟩, ⟨.AN, 0⟩, ⟨.LA, Action.reqTx⟩, ⟨.AN, 0⟩, ⟨.AN, 0⟩, ⟨.AN, 0⟩,
    ⟨.AN, 0⟩, ⟨.AN, 0⟩, ⟨.VN, Action.reqTx⟩, ⟨.VN, Action.reqTx⟩, ⟨.VN, Action.reqTx⟩,
    ⟨.AN, 0⟩, ⟨.QA, Action.sNew⟩, ⟨.QA, Action.sNew⟩, ⟨.VN, Action.reqTx⟩],
   [⟨.invalid, 0⟩, ⟨.VN, Action.reqTx⟩, ⟨.AA, 0⟩, ⟨.LA, Action.reqTx⟩, ⟨.AA, 0⟩, ⟨.QA, 0⟩,
    ⟨.QA, 0⟩, ⟨.AA, 0⟩, ⟨.AA, 0⟩, ⟨.VP, Action.reqTx⟩, ⟨.VP, Action.reqTx⟩,
    ⟨.VP, Action.reqTx⟩, ⟨.AA, 0⟩, ⟨.QA, Action.sJoin⟩, ⟨.QA, Action.sJoin⟩,
    ⟨.VP, Action.reqTx⟩],
   [⟨.invalid, 0⟩, ⟨.VN, Action.reqTx⟩, ⟨.QA, 0⟩, ⟨.LA, Action.reqTx⟩, ⟨.QA, 0⟩, ⟨.QA, 0⟩,
    ⟨.QA, 0⟩, ⟨.AA, Action.reqTx⟩, ⟨.AA, Action.reqTx⟩, ⟨.VP, Action.reqTx⟩,
    ⟨.VP, Action.reqTx⟩, ⟨.VP, Action.reqTx⟩, ⟨.AA, Action.reqTx⟩, ⟨.QA, 0⟩,
    ⟨.QA, Action.sJoin⟩, ⟨.VP, Action.reqTx⟩],
   [⟨.invalid, 0⟩, ⟨.VN, Action.reqTx⟩, ⟨.AA, Action.reqTx⟩, ⟨.LA, 0⟩, ⟨.LA, 0⟩, ⟨.LA, 0⟩,
    ⟨.LA, 0⟩, ⟨.LA, 0⟩, ⟨.LA, 0⟩, ⟨.LA, 0⟩, ⟨.LA, 0⟩, ⟨.LA, 0⟩, ⟨.LA, 0⟩,
    ⟨.VO, Action.sLv⟩, ⟨.LO, Action.reqTx⟩, ⟨.LO, Action.reqTx⟩],
   [⟨.invalid, 0⟩, ⟨.VN, Action.reqTx⟩, ⟨.AP, Action.reqTx⟩, ⟨.AO, 0⟩, ⟨.AO, 0⟩, ⟨.QO, 0⟩,
    ⟨.AO, 0⟩, ⟨.AO, 0⟩, ⟨.LO, Action.reqTx⟩, ⟨.LO, Action.reqTx⟩, ⟨.LO, Action.reqTx⟩,
    ⟨.LO, Action.reqTx⟩, ⟨.AO, 0⟩, ⟨.AO, 0⟩, ⟨.LO, Action.reqTx⟩, ⟨.LO, Action.reqTx⟩],
   [⟨.invalid, 0⟩, ⟨.VN, Action.reqTx⟩, ⟨.QP, 0⟩, ⟨.QO, 0⟩, ⟨.QO, 0⟩, ⟨.QO, 0⟩, ⟨.QO, 0⟩,
    ⟨.AO, 0⟩, ⟨.AO, 0⟩, ⟨.LO, Action.reqTx⟩, ⟨.LO, Action.reqTx⟩, ⟨.LO, Action.reqTx⟩,
    ⟨.QO, 0⟩, ⟨.QO, 0⟩, ⟨.LO, Action.reqTx⟩, ⟨.LO, Action.reqTx⟩],
   [⟨.invalid, 0⟩, ⟨.VN, Action.reqTx⟩, ⟨.AP, 0⟩, ⟨.AO, 0⟩, ⟨.AP, 0⟩, ⟨.QP, 0⟩, ⟨.AP, 0⟩,
    ⟨.AP, 0⟩, ⟨.AP, 0⟩, ⟨.VP, Action.reqTx⟩, ⟨.VP, Action.reqTx⟩, ⟨.VP, Action.reqTx⟩,
    ⟨.AP, 0⟩, ⟨.QA, Action.sJoin⟩, ⟨.QA, Action.sJoin⟩, ⟨.VP, Action.reqTx⟩],
   [⟨.invalid, 0⟩, ⟨.VN, Action.reqTx⟩, ⟨.QP, 0⟩, ⟨.QO, 0⟩, ⟨.QP, 0⟩, ⟨.QP, 0⟩, ⟨.QP, 0⟩,
    ⟨.AP, Action.reqTx⟩, ⟨.AP, Action.reqTx⟩, ⟨.VP, Action.reqTx⟩, ⟨.VP, Action.reqTx⟩,
    ⟨.VP, Action.reqTx⟩, ⟨.AP, Action.reqTx⟩, ⟨.QP, 0⟩, ⟨.QA, Action.sJoin⟩,
    ⟨.VP, Action.reqTx⟩],
   [⟨.invalid, 0⟩, ⟨.VN, Action.reqTx⟩, ⟨.VP, Action.reqTx⟩, ⟨.LO, 0⟩, ⟨.LO, 0⟩, ⟨.LO, 0⟩,
    ⟨.LO, 0⟩, ⟨.VO, 0⟩, ⟨.VO, 0⟩, ⟨.LO, 0⟩, ⟨.LO, 0⟩, ⟨.LO, 0⟩, ⟨.LO, 0⟩, ⟨.VO, Action.s⟩,
    ⟨.LO, 0⟩, ⟨.LO, 0⟩]]

/-- `mrp_registrar_state_table`. -/
def mrpRegistrarStateTable : List (List (StateTrans RegistrarState)) :=
  [[⟨.invalid, 0⟩],
   [⟨.invalid, 0⟩, ⟨.IN, Action.new⟩, ⟨.IN, 0⟩, ⟨.IN, 0⟩, ⟨.LV, Action.startLeaveTimer⟩,
    ⟨.LV, Action.startLeaveTimer⟩, ⟨.LV, Action.startLeaveTimer⟩,
    ⟨.LV, Action.startLeaveTimer⟩, ⟨.MT, 0⟩, ⟨.IN, 0⟩],
   [⟨.invalid, 0⟩, ⟨.IN, Action.new ||| Action.stopLeaveTimer⟩,
    ⟨.IN, Action.stopLeaveTimer⟩, ⟨.IN, Action.stopLeaveTimer⟩, ⟨.LV, 0⟩, ⟨.LV, 0⟩,
    ⟨.LV, 0⟩, ⟨.LV, 0⟩, ⟨.MT, Action.lv⟩, ⟨.L3, Action.startLeaveTimer⟩],
   [⟨.invalid, 0⟩, ⟨.IN, Action.new ||| Action.stopLeaveTimer⟩,
    ⟨.IN, Action.stopLeaveTimer⟩, ⟨.IN, Action.stopLeaveTimer⟩, ⟨.L3, 0⟩, ⟨.L3, 0⟩,
    ⟨.L3, 0⟩, ⟨.L3, 0⟩, ⟨.MT, Action.lv⟩, ⟨.L2, Action.startLeaveTimer⟩],
   [⟨.invalid, 0⟩, ⟨.IN, Action.new ||| Action.stopLeaveTimer⟩,
    ⟨.IN, Action.stopLeaveTimer⟩, ⟨.IN, Action.stopLeaveTimer⟩, ⟨.L2, 0⟩, ⟨.L2, 0⟩,
    ⟨.L2, 0⟩, ⟨.L2, 0⟩, ⟨.MT, Action.lv⟩, ⟨.L1, Action.startLeaveTimer⟩],
   [⟨.invalid, 0⟩, ⟨.IN, Action.new ||| Action.stopLeaveTimer⟩,
    ⟨.IN, Action.stopLeaveTimer⟩, ⟨.IN, Action.stopLeaveTimer⟩, ⟨.L1, 0⟩, ⟨.L1, 0⟩,
    ⟨.L1, 0⟩, ⟨.L1, 0⟩, ⟨.MT, Action.lv⟩, ⟨.MT, Action.lv⟩],
   [⟨.invalid, 0⟩, ⟨.IN, Action.new⟩, ⟨.IN, Action.join⟩, ⟨.IN, Action.join⟩, ⟨.MT, 0⟩,
    ⟨.MT, 0⟩, ⟨.MT, 0⟩, ⟨.MT, 0⟩, ⟨.MT, 0⟩, ⟨.MT, 0⟩]]

/-- `mrp_leaveall_state_table`. -/
def mrpLeaveallStateTable : List (List (StateTrans LeaveallState)) :=
  [[⟨.invalid, 0⟩],
   [⟨.invalid, 0⟩, ⟨.P, Action.sLa⟩, ⟨.P, Action.startLeaveallTimer⟩,
    ⟨.A, Action.startLeaveallTimer ||| Action.reqTx⟩],
   [⟨.invalid, 0⟩, ⟨.P, 0⟩, ⟨.P, Action.startLeaveallTimer⟩,
    ⟨.A, Action.startLeaveallTimer ||| Action.reqTx⟩]]

/-- The entry of row `i` for event `e`; what the initialiser leaves out is zero. -/
def tableEntry {σ : Type} (invalid : σ) (table : List (List (StateTrans σ))) (i : ℕ)
    (e : MrpEvent) : StateTrans σ :=
  (table.getD i []).getD e.index ⟨invalid, 0⟩

def applicantEntry (s : ApplicantState) (e : MrpEvent) : StateTrans ApplicantState :=
  tableEntry .invalid mrpApplicantStateTable s.index e

def registrarEntry (s : RegistrarState) (e : MrpEvent) : StateTrans RegistrarState :=
  tableEntry .invalid mrpRegistrarStateTable s.index e

def leaveallEntry (s : LeaveallState) (e : MrpEvent) : StateTrans LeaveallState :=
  tableEntry .invalid mrpLeaveallStateTable s.index e

/-- The machine a table drives: an entry with state `invalid` is no transition
and emits nothing. -/
def tableMachine {σ : Type} [DecidableEq σ] (invalid : σ) (entry : σ → MrpEvent → StateTrans σ) :
    Runs.Mealy σ MrpEvent Action where
  next s e := if (entry s e).state = invalid then s else (entry s e).state
  out s e := if (entry s e).state = invalid then 0 else (entry s e).action

end Msrp
