/-
The reference MRP machines, entry by entry, against the tables in force.

`vtss_msrp.c` keeps, disabled by `#if 0`, the functions that assign every entry of
the three tables by event name.  They are transcribed here as lists of
assignments, and `live_tables_implement_iff` compares the machines: on a sequence of
events the live tables show the reference trace exactly when no step of it meets
an entry that the positional initialisers put in another event's column.
-/
import AvbSwitch.MrpTables

open Runs

namespace Msrp

/-- An assignment `table[state][event] = { next, action }`. -/
structure Assign (σ : Type) where
  state : σ
  event : MrpEvent
  next : σ
  action : Action

/-- `init_app_state_table1`. -/
def initAppStateTable1 : List (Assign ApplicantState) :=
  [⟨.VO, .new, .VN, Action.reqTx⟩, ⟨.VO, .join, .VP, Action.reqTx⟩, ⟨.VO, .lv, .VO, 0⟩,
   ⟨.VO, .rNew, .VO, 0⟩, ⟨.VO, .rJoinIn, .AO, 0⟩, ⟨.VO, .rIn, .VO, 0⟩,
   ⟨.VO, .rJoinMt, .VO, 0⟩, ⟨.VO, .rMt, .VO, 0⟩, ⟨.VO, .rLv, .LO, Action.reqTx⟩,
   ⟨.VO, .rLa, .LO, Action.reqTx⟩, ⟨.VO, .redeclare, .LO, Action.reqTx⟩,
   ⟨.VO, .periodic, .VO, 0⟩, ⟨.VO, .tx, .VO, 0⟩, ⟨.VO, .txLa, .LO, Action.reqTx⟩,
   ⟨.VO, .txLaf, .LO, Action.reqTx⟩, ⟨.VP, .new, .VN, Action.reqTx⟩, ⟨.VP, .join, .VP, 0⟩,
   ⟨.VP, .lv, .VO, 0⟩, ⟨.VP, .rNew, .VP, 0⟩, ⟨.VP, .rJoinIn, .AP, Action.reqTx⟩,
   ⟨.VP, .rJoinMt, .VP, 0⟩, ⟨.VP, .rMt, .VP, 0⟩, ⟨.VP, .rLv, .VP, 0⟩, ⟨.VP, .rLa, .VP, 0⟩,
   ⟨.VP, .redeclare, .VP, 0⟩, ⟨.VP, .periodic, .VP, 0⟩,
   ⟨.VP, .tx, .VP, Action.sJoin ||| Action.reqTx⟩,
   ⟨.VP, .txLa, .AA, Action.s ||| Action.reqTx⟩, ⟨.VP, .txLaf, .VP, Action.reqTx⟩]

/-- `init_app_table2`. -/
def initAppTable2 : List (Assign ApplicantState) :=
  [⟨.VN, .new, .VN, 0⟩, ⟨.VN, .join, .VN, 0⟩, ⟨.VN, .lv, .LA, Action.reqTx⟩,
   ⟨.VN, .rNew, .VN, 0⟩, ⟨.VN, .rJoinIn, .VN, 0⟩, ⟨.VN, .rIn, .VN, 0⟩,
   ⟨.VN, .rJoinMt, .VN, 0⟩, ⟨.VN, .rMt, .VN, 0⟩, ⟨.VN, .rLv, .VN, 0⟩, ⟨.VN, .rLa, .VN, 0⟩,
   ⟨.VN, .redeclare, .VN, 0⟩, ⟨.VN, .periodic, .VN, 0⟩,
   ⟨.VN, .tx, .AN, Action.sNew ||| Action.reqTx⟩,
   ⟨.VN, .txLa, .AN, Action.sNew ||| Action.reqTx⟩, ⟨.VN, .txLaf, .VN, Action.reqTx⟩]

/-- `init_app_table3`. -/
def initAppTable3 : List (Assign ApplicantState) :=
  [⟨.AN, .new, .AN, 0⟩, ⟨.AN, .join, .AN, 0⟩, ⟨.AN, .lv, .LA, Action.reqTx⟩,
   ⟨.AN, .rNew, .AN, 0⟩, ⟨.AN, .rJoinIn, .AN, 0⟩, ⟨.AN, .rIn, .AN, 0⟩,
   ⟨.AN, .rJoinMt, .AN, 0⟩, ⟨.AN, .rMt, .AN, 0⟩, ⟨.AN, .rLv, .VN, Action.reqTx⟩,
   ⟨.AN, .rLa, .VN, Action.reqTx⟩, ⟨.AN, .redeclare, .VN, Action.reqTx⟩,
   ⟨.AN, .periodic, .AN, 0⟩, ⟨.AN, .tx, .QA, Action.sNew⟩, ⟨.AN, .txLa, .QA, Action.sNew⟩,
   ⟨.AN, .txLaf, .VN, Action.reqTx⟩]

/-- `init_app_table4`. -/
def initAppTable4 : List (Assign ApplicantState) :=
  [⟨.AA, .new, .VN, Action.reqTx⟩, ⟨.AA, .join, .AA, 0⟩, ⟨.AA, .lv, .LA, Action.reqTx⟩,
   ⟨.AA, .rNew, .AA, 0⟩, ⟨.AA, .rJoinIn, .QA, 0⟩, ⟨.AA, .rIn, .QA, 0⟩,
   ⟨.AA, .rJoinMt, .AA, 0⟩, ⟨.AA, .rMt, .AA, 0⟩, ⟨.AA, .rLv, .VP, Action.reqTx⟩,
   ⟨.AA, .rLa, .VP, Action.reqTx⟩, ⟨.AA, .redeclare, .VP, Action.reqTx⟩,
   ⟨.AA, .periodic, .AA, 0⟩, ⟨.AA, .tx, .QA, Action.sJoin⟩, ⟨.AA, .txLa, .QA, Action.sJoin⟩,
   ⟨.AA, .txLaf, .VP, Action.reqTx⟩]

/-- `init_app_table5`. -/
def initAppTable5 : List (Assign ApplicantState) :=
  [⟨.QA, .new, .VN, Action.reqTx⟩, ⟨.QA, .join, .QA, 0⟩, ⟨.QA, .lv, .LA, Action.reqTx⟩,
   ⟨.QA, .rNew, .QA, 0⟩, ⟨.QA, .rJoinIn, .QA, 0⟩, ⟨.QA, .rIn, .QA, 0⟩,
   ⟨.QA, .rJoinMt, .AA, Action.reqTx⟩, ⟨.QA, .rMt, .AA, Action.reqTx⟩,
   ⟨.QA, .rLv, .VP, Action.reqTx⟩, ⟨.QA, .rLa, .VP, Action.reqTx⟩,
   ⟨.QA, .redeclare, .VP, Action.reqTx⟩, ⟨.QA, .periodic, .AA, Action.reqTx⟩,
   ⟨.QA, .tx, .QA, 0⟩, ⟨.QA, .txLa, .QA, Action.sJoin⟩, ⟨.QA, .txLaf, .VP, Action.reqTx⟩]

/-- `init_app_table6`. -/
def initAppTable6 : List (Assign ApplicantState) :=
  [⟨.LA, .new, .VN, Action.reqTx⟩, ⟨.LA, .join, .AA, Action.reqTx⟩, ⟨.LA, .lv, .LA, 0⟩,
   ⟨.LA, .rNew, .LA, 0⟩, ⟨.LA, .rJoinIn, .LA, 0⟩, ⟨.LA, .rIn, .LA, 0⟩,
   ⟨.LA, .rJoinMt, .LA, 0⟩, ⟨.LA, .rMt, .LA, 0⟩, ⟨.LA, .rLv, .LA, 0⟩, ⟨.LA, .rLa, .LA, 0⟩,
   ⟨.LA, .redeclare, .LA, 0⟩, ⟨.LA, .periodic, .LA, 0⟩, ⟨.LA, .tx, .VO, Action.sLv⟩,
   ⟨.LA, .txLa, .LO, Action.reqTx⟩, ⟨.LA, .txLaf, .LO, Action.reqTx⟩]

/-- `init_app_table7`. -/
def initAppTable7 : List (Assign ApplicantState) :=
  [⟨.AO, .new, .VN, Action.reqTx⟩, ⟨.AO, .join, .AP, Action.reqTx⟩, ⟨.AO, .lv, .AO, 0⟩,
   ⟨.AO, .rNew, .AO, 0⟩, ⟨.AO, .rJoinIn, .QO, 0⟩, ⟨.AO, .rIn, .AO, 0⟩,
   ⟨.AO, .rJoinMt, .AO, 0⟩, ⟨.AO, .rMt, .LO, Action.reqTx⟩, ⟨.AO, .rLv, .LO, Action.reqTx⟩,
   ⟨.AO, .rLa, .LO, Action.reqTx⟩, ⟨.AO, .redeclare, .LO, Action.reqTx⟩,
   ⟨.AO, .periodic, .AO, 0⟩, ⟨.AO, .tx, .AO, 0⟩, ⟨.AO, .txLa, .LO, Action.reqTx⟩,
   ⟨.AO, .txLaf, .LO, Action.reqTx⟩]

/-- `init_app_table8`. -/
def initAppTable8 : List (Assign ApplicantState) :=
  [⟨.QO, .new, .VN, Action.reqTx⟩, ⟨.QO, .join, .QP, 0⟩, ⟨.QO, .lv, .QO, 0⟩,
   ⟨.QO, .rNew, .QO, 0⟩, ⟨.QO, .rJoinIn, .QO, 0⟩, ⟨.QO, .rIn, .QO, 0⟩,
   ⟨.QO, .rJoinMt, .AO, 0⟩, ⟨.QO, .rMt, .AO, 0⟩, ⟨.QO, .rLv, .LO, Action.reqTx⟩,
   ⟨.QO, .rLa, .LO, Action.reqTx⟩, ⟨.QO, .redeclare, .LO, Action.reqTx⟩,
   ⟨.QO, .periodic, .QO, 0⟩, ⟨.QO, .tx, .QO, 0⟩, ⟨.QO, .txLa, .LO, Action.reqTx⟩,
   ⟨.QO, .txLaf, .LO, Action.reqTx⟩]

/-- `init_app_table9`. -/
def initAppTable9 : List (Assign ApplicantState) :=
  [⟨.AP, .new, .VN, Action.reqTx⟩, ⟨.AP, .join, .AP, 0⟩, ⟨.AP, .lv, .AO, 0⟩,
   ⟨.AP, .rNew, .AP, 0⟩, ⟨.AP, .rJoinIn, .QP, 0⟩, ⟨.AP, .rIn, .AP, 0⟩,
   ⟨.AP, .rJoinMt, .AP, 0⟩, ⟨.AP, .rMt, .AP, 0⟩, ⟨.AP, .rLv, .VP, Action.reqTx⟩,
   ⟨.AP, .rLa, .VP, Action.reqTx⟩, ⟨.AP, .redeclare, .VP, Action.reqTx⟩,
   ⟨.AP, .periodic, .AP, 0⟩, ⟨.AP, .tx, .QA, Action.sJoin⟩, ⟨.AP, .txLa, .QA, Action.sJoin⟩,
   ⟨.AP, .txLaf, .VP, Action.reqTx⟩]

/-- `init_app_table10`. -/
def initAppTable10 : List (Assign ApplicantState) :=
  [⟨.QP, .new, .VN, Action.reqTx⟩, ⟨.QP, .join, .QP, 0⟩, ⟨.QP, .lv, .QO, 0⟩,
   ⟨.QP, .rNew, .QP, 0⟩, ⟨.QP, .rJoinIn, .QP, 0⟩, ⟨.QP, .rIn, .QP, 0⟩,
   ⟨.QP, .rJoinMt, .AP, Action.reqTx⟩, ⟨.QP, .rMt, .AP, Action.reqTx⟩,
   ⟨.QP, .rLv, .VP, Action.reqTx⟩, ⟨.QP, .rLa, .VP, Action.reqTx⟩,
   ⟨.QP, .redeclare, .VP, Action.reqTx⟩, ⟨.QP, .periodic, .AP, Action.reqTx⟩,
   ⟨.QP, .tx, .QP, 0⟩, ⟨.QP, .txLa, .QA, Action.sJoin⟩, ⟨.QP, .txLaf, .VP, Action.reqTx⟩]

/-- `init_app_table11`. -/
def initAppTable11 : List (Assign ApplicantState) :=
  [⟨.LO, .new, .VN, Action.reqTx⟩, ⟨.LO, .join, .VP, Action.reqTx⟩, ⟨.LO, .lv, .LO, 0⟩,
   ⟨.LO, .rNew, .LO, 0⟩, ⟨.LO, .rJoinIn, .LO, 0⟩, ⟨.LO, .rIn, .LO, 0⟩,
   ⟨.LO, .rJoinMt, .VO, 0⟩, ⟨.LO, .rMt, .VO, 0⟩, ⟨.LO, .rLv, .LO, 0⟩, ⟨.LO, .rLa, .LO, 0⟩,
   ⟨.LO, .redeclare, .LO, 0⟩, ⟨.LO, .periodic, .LO, 0⟩, ⟨.LO, .tx, .VO, Action.s⟩,
   ⟨.LO, .txLa, .LO, 0⟩, ⟨.LO, .txLaf, .LO, 0⟩]

/-- `init_registrar_table1`. -/
def initRegistrarTable1 : List (Assign RegistrarState) :=
  [⟨.IN, .rNew, .IN, Action.new⟩, ⟨.IN, .rJoinIn, .IN, 0⟩, ⟨.IN, .rJoinMt, .IN, 0⟩,
   ⟨.IN, .rLv, .LV, Action.startLeaveTimer⟩, ⟨.IN, .rLa, .LV, Action.startLeaveTimer⟩,
   ⟨.IN, .txLa, .LV, Action.startLeaveTimer⟩,
   ⟨.IN, .redeclare, .LV, Action.startLeaveTimer⟩, ⟨.IN, .flush, .MT, 0⟩,
   ⟨.IN, .leaveTimer, .IN, 0⟩, ⟨.LV, .rNew, .IN, Action.new ||| Action.stopLeaveTimer⟩,
   ⟨.LV, .rJoinIn, .IN, Action.stopLeaveTimer⟩, ⟨.LV, .rJoinMt, .IN, Action.stopLeaveTimer⟩,
   ⟨.LV, .rLv, .LV, 0⟩, ⟨.LV, .rLa, .LV, 0⟩, ⟨.LV, .txLa, .LV, 0⟩,
   ⟨.LV, .redeclare, .LV, 0⟩, ⟨.LV, .flush, .MT, Action.lv⟩,
   ⟨.LV, .leaveTimer, .L3, Action.startLeaveTimer⟩,
   ⟨.L3, .rNew, .IN, Action.new ||| Action.stopLeaveTimer⟩,
   ⟨.L3, .rJoinIn, .IN, Action.stopLeaveTimer⟩, ⟨.L3, .rJoinMt, .IN, Action.stopLeaveTimer⟩,
   ⟨.L3, .rLv, .L3, 0⟩, ⟨.L3, .rLa, .L3, 0⟩, ⟨.L3, .txLa, .L3, 0⟩,
   ⟨.L3, .redeclare, .L3, 0⟩, ⟨.L3, .flush, .MT, Action.lv⟩,
   ⟨.L3, .leaveTimer, .L2, Action.startLeaveTimer⟩,
   ⟨.L2, .rNew, .IN, Action.new ||| Action.stopLeaveTimer⟩,
   ⟨.L2, .rJoinIn, .IN, Action.stopLeaveTimer⟩, ⟨.L2, .rJoinMt, .IN, Action.stopLeaveTimer⟩,
   ⟨.L2, .rLv, .L2, 0⟩, ⟨.L2, .rLa, .L2, 0⟩, ⟨.L2, .txLa, .L2, 0⟩,
   ⟨.L2, .redeclare, .L2, 0⟩, ⟨.L2, .flush, .MT, Action.lv⟩,
   ⟨.L2, .leaveTimer, .L1, Action.startLeaveTimer⟩,
   ⟨.L1, .rNew, .IN, Action.new ||| Action.stopLeaveTimer⟩,
   ⟨.L1, .rJoinIn, .IN, Action.stopLeaveTimer⟩, ⟨.L1, .rJoinMt, .IN, Action.stopLeaveTimer⟩,
   ⟨.L1, .rLv, .L1, 0⟩, ⟨.L1, .rLa, .L1, 0⟩, ⟨.L1, .txLa, .L1, 0⟩,
   ⟨.L1, .redeclare, .L1, 0⟩, ⟨.L1, .flush, .MT, Action.lv⟩,
   ⟨.L1, .leaveTimer, .MT, Action.lv⟩, ⟨.MT, .rNew, .IN, Action.new⟩,
   ⟨.MT, .rJoinIn, .IN, Action.join⟩, ⟨.MT, .rJoinMt, .IN, Action.join⟩,
   ⟨.MT, .rLv, .MT, 0⟩, ⟨.MT, .rLa, .MT, 0⟩, ⟨.MT, .txLa, .MT, 0⟩,
   ⟨.MT, .redeclare, .MT, 0⟩, ⟨.MT, .flush, .MT, 0⟩, ⟨.MT, .leaveTimer, .MT, 0⟩]

/-- `init_leave_all_table`. -/
def initLeaveAllTable : List (Assign LeaveallState) :=
  [⟨.A, .tx, .P, Action.sLa⟩, ⟨.A, .rLa, .P, Action.startLeaveallTimer⟩,
   ⟨.A, .leaveallTimer, .A, Action.startLeaveallTimer ||| Action.reqTx⟩, ⟨.P, .tx, .P, 0⟩,
   ⟨.P, .rLa, .P, Action.startLeaveallTimer⟩,
   ⟨.P, .leaveallTimer, .A, Action.startLeaveallTimer ||| Action.reqTx⟩]

/-- All the assignments made to `mrp_applicant_state_table`. -/
def initAppTables : List (Assign ApplicantState) :=
  initAppStateTable1 ++ initAppTable2 ++ initAppTable3 ++ initAppTable4 ++ initAppTable5 ++
    initAppTable6 ++ initAppTable7 ++ initAppTable8 ++ initAppTable9 ++ initAppTable10 ++
    initAppTable11

/-- The entry that the assignments leave at `s`, `e`, from a table of zeros. -/
def assignedEntry {σ : Type} [DecidableEq σ] (invalid : σ) (as : List (Assign σ)) (s : σ)
    (e : MrpEvent) : StateTrans σ :=
  as.foldl (fun t a => if a.state = s ∧ a.event = e then ⟨a.next, a.action⟩ else t) ⟨invalid, 0⟩

/-- The machines driven through the tables in force. -/
def liveApplicant : Mealy ApplicantState MrpEvent Action := tableMachine .invalid applicantEntry
def liveRegistrar : Mealy RegistrarState MrpEvent Action := tableMachine .invalid registrarEntry
def liveLeaveall : Mealy LeaveallState MrpEvent Action := tableMachine .invalid leaveallEntry

/-- The machines that the `init_` functions write out. -/
def refApplicant : Mealy ApplicantState MrpEvent Action :=
  tableMachine .invalid (assignedEntry .invalid initAppTables)
def refRegistrar : Mealy RegistrarState MrpEvent Action :=
  tableMachine .invalid (assignedEntry .invalid initRegistrarTable1)
def refLeaveall : Mealy LeaveallState MrpEvent Action :=
  tableMachine .invalid (assignedEntry .invalid initLeaveAllTable)

/-! ### The misplaced entries -/

/-- The applicant rows list REDECLARE, PERIODIC and the three transmission events
straight after R_LA, where the columns are TX, TX_LA, TX_LAF, FLUSH, REDECLARE;
row VN also lacks its JOIN entry. -/
def applicantMisplaced : ApplicantState → MrpEvent → Bool
  | .LO, .tx | .LO, .txLaf => true
  | .LO, _ => false
  | .VN, .txLa => false
  | .VN, .join | .VN, .lv => true
  | .VP, .redeclare | .LA, .redeclare => true
  | .QA, .periodic | .QP, .periodic => true
  | .invalid, _ => false
  | _, .tx | _, .txLa | _, .txLaf | _, .flush => true
  | _, _ => false

/-- The registrar rows list only the nine events that concern a registrar, in the
columns of NEW to R_LV. -/
def registrarMisplaced : RegistrarState → MrpEvent → Bool
  | .IN, .new | .IN, .rNew | .IN, .rJoinIn | .IN, .rIn | .IN, .rJoinMt | .IN, .rMt
  | .IN, .rLv | .IN, .rLa | .IN, .txLa | .IN, .flush | .IN, .redeclare => true
  | .IN, _ => false
  | .MT, .new | .MT, .join | .MT, .lv | .MT, .rNew | .MT, .rJoinIn | .MT, .rJoinMt => true
  | .MT, _ => false
  | .invalid, _ => false
  | _, .new | _, .join | _, .lv | _, .rNew | _, .rJoinIn | _, .rJoinMt | _, .rMt | _, .rLv
  | _, .flush | _, .leaveTimer => true
  | _, _ => false

/-- The LeaveAll rows list TX, R_LA and LEAVEALL_TIMER in the columns of NEW, JOIN
and LV. -/
def leaveallMisplaced : LeaveallState → MrpEvent → Bool
  | .A, .new | .A, .tx => true
  | .A, .join | .A, .lv | .A, .rLa | .A, .leaveallTimer => true
  | .P, .join | .P, .lv | .P, .rLa | .P, .leaveallTimer => true
  | _, _ => false

theorem applicant_agree_iff (s : ApplicantState) (e : MrpEvent) :
    liveApplicant.Agree refApplicant s e ↔ applicantMisplaced s e = false := by
  unfold Mealy.Agree
  revert e
  cases s <;> decide +kernel

theorem registrar_agree_iff (s : RegistrarState) (e : MrpEvent) :
    liveRegistrar.Agree refRegistrar s e ↔ registrarMisplaced s e = false := by
  unfold Mealy.Agree
  revert e
  cases s <;> decide +kernel

theorem leaveall_agree_iff (s : LeaveallState) (e : MrpEvent) :
    liveLeaveall.Agree refLeaveall s e ↔ leaveallMisplaced s e = false := by
  unfold Mealy.Agree
  revert e
  cases s <;> decide +kernel

/-! ### The comparison -/

/-- On the events `es` the live tables take the three machines, from their initial
states, through the reference states with the reference actions. -/
def LiveTablesImplement (es : List MrpEvent) : Prop :=
  liveApplicant.trace .VO es = refApplicant.trace .VO es ∧
  liveRegistrar.trace .MT es = refRegistrar.trace .MT es ∧
  liveLeaveall.trace .P es = refLeaveall.trace .P es

/-- No reference step over `es` meets a misplaced entry. -/
def AvoidsMisplaced (es : List MrpEvent) : Prop :=
  EachStep refApplicant.step (fun s e => applicantMisplaced s e = false) .VO es ∧
  EachStep refRegistrar.step (fun s e => registrarMisplaced s e = false) .MT es ∧
  EachStep refLeaveall.step (fun s e => leaveallMisplaced s e = false) .P es

/-- For two machines of the same states, comparing traces is looking for a step
whose entries differ. -/
theorem trace_eq_iff_of_agree {σ : Type} {M N : Mealy σ MrpEvent Action}
    {misplaced : σ → MrpEvent → Bool} (h : ∀ s e, M.Agree N s e ↔ misplaced s e = false)
    (s : σ) (es : List MrpEvent) :
    M.trace s es = N.trace s es ↔ EachStep N.step (fun s e => misplaced s e = false) s es := by
  rw [Mealy.trace_eq_iff]
  exact eachStep_congr (K := fun _ => True) (fun _ _ => trivial) (fun _ => h _ _) trivial

/-- **The live tables implement the reference machines** on exactly the event
sequences that keep clear of the misplaced entries. -/
theorem live_tables_implement_iff (es : List MrpEvent) :
    LiveTablesImplement es ↔ AvoidsMisplaced es := by
  unfold LiveTablesImplement AvoidsMisplaced
  rw [trace_eq_iff_of_agree applicant_agree_iff, trace_eq_iff_of_agree registrar_agree_iff,
    trace_eq_iff_of_agree leaveall_agree_iff]

/-- A received JoinIn leaves the live registrar in MT, where the reference enters IN. -/
theorem live_tables_miss_join_in : ¬ ∀ es, LiveTablesImplement es := by
  intro h
  have hreg := (h [.rJoinIn]).2.1
  revert hreg
  decide +kernel

end Msrp
