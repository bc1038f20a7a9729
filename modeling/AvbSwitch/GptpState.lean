/-
The state of a gPTP instance: `struct gptpm` and `struct vtss_gptp_port_vars`, as far as
the announce machines and the role selection read or write it.

`gmPriority` points into the instance itself, so that it is kept as the place it points to;
`Gptpm.gmPriorityVector` is what stands there.
-/
import AvbSwitch.Octets
import AvbSwitch.PriorityVectors

open Octets

namespace Gptp

/-! ### Ports -/

/-- `PtpRole`. -/
inductive PtpRole
  | master
  | slave
  | passive
  | disabled
  deriving DecidableEq, Repr

/-- `vtss_ptp_infois_enum`. -/
inductive InfoIs
  | disabled
  | received
  | aged
  | mine
  deriving DecidableEq, Repr

/-- `PortAnnounceInformation_State_t`. -/
inductive PortAnnounceInformationState
  | begin
  | disabled
  | aged
  | update
  | superiorMasterPort
  | repeatedMasterPort
  | inferiorMasterOrOtherPort
  | current
  | receive
  deriving DecidableEq, Repr

/-- `AnnounceReceiveInfo`. -/
inductive AnnounceReceiveInfo
  | superiorMasterInfo
  | repeatedMasterInfo
  | inferiorMasterInfo
  | otherInfo
  deriving DecidableEq, Repr

/-- What `vtss_gptp_port_config_t` says about timeouts. -/
structure PortConfig where
  announceReceiptTimeout : Int8
  syncReceiptTimeOut : UInt8

/-- `struct vtss_gptp_port_vars`. -/
structure Port where
  portConfig : PortConfig
  selectedRole : PtpRole
  asCapable : Bool
  currentLogSyncInterval : UInt32
  portEnabled : Bool
  pttPortEnabled : Bool
  reselect : Bool
  selected : Bool
  infoIs : InfoIs
  masterPriority : PriorityVector
  currentLogAnnounceInterval : Int8
  newInfo : Bool
  portPriority : PriorityVector
  gmPathPriority : PriorityVector
  portStepsRemoved : UInt16
  /-- the frame that was received last; its buffer keeps it until the next one comes -/
  rcvdAnnouncePtr : Option Mem
  rcvdMsg : Bool
  updtInfo : Bool
  portAnnounceInformationState : PortAnnounceInformationState
  announceTimeoutCounter : UInt32
  messagePriority : PriorityVector
  rcvdInfo : AnnounceReceiveInfo
  syncReceiptTimeout : Int8
  announceReceiptTimeout : Int8
  syncTimeoutCounter : UInt32
  annCurrentUtcOffset : UInt16
  annleap59 : UInt8
  annleap61 : UInt8
  anncurrentUtcOffsetValid : UInt8
  anntimeTraceable : UInt8
  annfrequencyTraceable : UInt8
  anntimeSource : UInt16

/-- `SIGNED_SHIFT`. -/
def signedShift (a b : ℤ) : ℤ := if 0 ≤ b then a * 2 ^ b.toNat else a / 2 ^ (-b).toNat

/-- `ANNOUNCE_INTERVAL_TICKS`, with 1000 ticks a second. -/
def Port.announceIntervalTicks (pp : Port) : ℤ :=
  signedShift (1000 / 1000) pp.currentLogAnnounceInterval.toInt

/-- `SYNC_INTERVAL_TICKS`. -/
def Port.syncIntervalTicks (pp : Port) : ℤ :=
  signedShift (1000 / 1000) pp.currentLogSyncInterval.toNat

/-- The comparison is one of unsigned numbers. -/
def Port.announceTimeout (pp : Port) : Bool :=
  UInt32.ofInt (pp.announceIntervalTicks * pp.announceReceiptTimeout.toInt)
    ≤ pp.announceTimeoutCounter

def Port.syncTimeout (pp : Port) : Bool :=
  UInt32.ofInt (pp.syncIntervalTicks * pp.syncReceiptTimeout.toInt * 2) ≤ pp.syncTimeoutCounter

/-- The port takes part in the protocol. -/
def Port.operational (pp : Port) : Bool := pp.portEnabled && pp.pttPortEnabled && pp.asCapable

/-! ### The instance -/

/-- `PortRoleSelection_State_t`. -/
inductive PortRoleSelectionState
  | initBridge
  | roleSelection
  deriving DecidableEq, Repr

/-- Where `gmPriority` points to. -/
inductive GmPriority (n : ℕ)
  | systemPriority
  | lastGmPriority
  | gmPathPriority (port : Fin n)
  deriving DecidableEq, Repr

/-- `vtss_gptp_system_config_t`. -/
structure SystemConfig where
  prio1 : UInt8
  prio2 : UInt8

/-- `GPTP_MAX_PATH_TRACE`. -/
def maxPathTrace : ℕ := 50

theorem maxPathTrace_pos : 0 < maxPathTrace := Nat.succ_pos 49

/-- `struct gptpm` with `numPorts = n`. -/
structure Gptpm (n : ℕ) where
  ports : Fin n → Port
  systemConfig : SystemConfig
  gmPresent : Bool
  masterStepsRemoved : UInt16
  systemPriority : PriorityVector
  gmPriority : GmPriority n
  lastGmPriority : PriorityVector
  pathTraceLength : ℕ
  pathTrace : Fin maxPathTrace → ClockIdentity
  portRoleSelectionState : PortRoleSelectionState
  newMaster : Bool
  currentUtcOffset : UInt16
  leap59 : UInt8
  leap61 : UInt8
  currentUtcOffsetValid : UInt8
  timeTraceable : UInt8
  frequencyTraceable : UInt8
  timeSource : UInt16
  grandMaster : Bool

variable {n : ℕ} {t : Gptpm n} {p q : Fin n} {pp : Port}

/-- `*ptp->gmPriority`. -/
def Gptpm.gmPriorityVector (t : Gptpm n) : PriorityVector :=
  match t.gmPriority with
  | .systemPriority => t.systemPriority
  | .lastGmPriority => t.lastGmPriority
  | .gmPathPriority i => (t.ports i).gmPathPriority

/-- Write one port. -/
def Gptpm.setPort (t : Gptpm n) (p : Fin n) (pp : Port) : Gptpm n :=
  { t with ports := Function.update t.ports p pp }

@[simp] theorem Gptpm.setPort_ports_self : (t.setPort p pp).ports p = pp := by
  simp only [Gptpm.setPort, Function.update_self]

@[simp] theorem Gptpm.setPort_ports_of_ne (h : q ≠ p) : (t.setPort p pp).ports q = t.ports q := by
  simp only [Gptpm.setPort, Function.update_of_ne h]

@[simp] theorem Gptpm.setPort_systemPriority :
    (t.setPort p pp).systemPriority = t.systemPriority := rfl

/-- Where the path vector of the port stays, so does the grandmaster's vector. -/
theorem Gptpm.setPort_gmPriorityVector (h : pp.gmPathPriority = (t.ports p).gmPathPriority) :
    (t.setPort p pp).gmPriorityVector = t.gmPriorityVector := by
  rw [Gptpm.gmPriorityVector, Gptpm.gmPriorityVector,
    show (t.setPort p pp).gmPriority = t.gmPriority from rfl]
  cases t.gmPriority with
  | gmPathPriority i =>
    by_cases hi : i = p
    · show ((t.setPort p pp).ports i).gmPathPriority = _
      rw [hi, Gptpm.setPort_ports_self, h]
    · show ((t.setPort p pp).ports i).gmPathPriority = _
      rw [Gptpm.setPort_ports_of_ne hi]
  | _ => rfl

end Gptp
