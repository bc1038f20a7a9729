/-
`vtss_msrp_receive`: what is done with the values of a frame.

The values come one after another, as `rxItems` takes them out of the frame.  The pointer
to the machine that a value goes to is a local variable of the function; it starts as NULL
and keeps its value from one attribute value to the next.
-/
import AvbSwitch.MsrpService
import AvbSwitch.ReceiveLoops

namespace Msrp

open Octets

variable {n : ℕ}

/-! ### Streams -/

/-- `vtss_msrp_find_stream`, which does not look at `used`. -/
def vtssMsrpFindStream (signed : Bool) (t : State n) (fv : ℕ → UInt8) (num : ℕ) : Option (Fin 10) :=
  (List.finRange 10).find? fun i => (t.streamInfoVars i).streamID = wireStreamID signed fv num

/-- `vtss_msrp_get_free_stream`, as far as it stays within the array. -/
def vtssMsrpGetFreeStream (t : State n) : Option (Fin 10) :=
  ((List.finRange 10).find? fun i => (t.streamInfoVars i).used = false).filter fun i =>
    (i : ℕ) < streamCount

/-- Load thirty-two bits, highest octet first. -/
def get4 (m : Mem) (a : ℕ) : ℕ := get2 m a * 65536 + get2 m (a + 2)

theorem get2_lt (m : Mem) (a : ℕ) : get2 m a < 65536 := by
  have h0 := (m a).toNat_lt
  have h1 := (m (a + 1)).toNat_lt
  rw [get2]
  omega

theorem get4_lt (m : Mem) (a : ℕ) : get4 m a < 4294967296 := by
  have h0 := get2_lt m a
  have h2 := get2_lt m (a + 2)
  rw [get4]
  omega

/-- What `vtss_msrp_allocate_stream` writes for a Talker.  The frame size and the number of
frames are read as four octets. -/
def talkerInfo (attrType : AttributeType) (fv : ℕ → UInt8) (s : StreamInfo) : StreamInfo :=
  let s := { s with
    vlan := UInt32.ofNat (get2 fv 14)
    addr := Vector.ofFn fun i => fv (8 + i)
    maxframesize := UInt32.ofNat (get4 fv 16)
    maxintframes := UInt32.ofNat (get4 fv 18)
    tspec := fv 20
    accumulatedLatency := UInt32.ofNat (get4 fv 21) }
  if attrType = .talkerFailed then
    { s with failedBridgeId := Vector.ofFn fun i => fv (25 + i), failureCode := fv 33 }
  else s

def State.setStream (t : State n) (i : Fin 10) (s : StreamInfo) : State n :=
  { t with streamInfoVars := Function.update t.streamInfoVars i s }

/-- `vtss_msrp_allocate_stream`.  Without a free entry it writes through NULL or outside the
array. -/
def vtssMsrpAllocateStream (signed : Bool) (t : State n) (attrType : AttributeType)
    (fv : ℕ → UInt8) (num : ℕ) : Option (State n × Fin 10) :=
  (vtssMsrpGetFreeStream t).map fun i =>
    let id := wireStreamID signed fv num
    let s := { t.streamInfoVars i with used := true, id0 := id.1, id1 := id.2 }
    (t.setStream i (if attrType.IsTalker then talkerInfo attrType fv s else s), i)

/-! ### Machines -/

/-- `find_attribute_by_existing_stream_info` compares the address of a machine's
`attribute_type` with the type.  No object has such an address, so that the loop ends
without an answer, and the function has no result. -/
def findAttributeByExistingStreamInfo (_t : State n) (_p : Fin n) (_attrType : AttributeType)
    (_info : Fin 10) : Option MachineRef := none

/-- `get_attribute_reg`. -/
def getAttributeReg (t : State n) (p : Fin n) : Option (State n × Fin 24) :=
  ((List.finRange 24).find? fun i => (t.machine p (.slot i)).used = false).map fun i =>
    (t.setMachine p (.slot i)
      { t.machine p (.slot i) with regState := .MT, attrDir := .reg, used := true }, i)

/-- An `int` as an `enum mrp_event`; other values select columns outside the tables. -/
def mrpEventOfInt (x : ℤ) : Option MrpEvent :=
  [.unkown, .new, .join, .lv, .rNew, .rJoinIn, .rIn, .rJoinMt, .rMt, .rLv, .rLa, .tx, .txLa,
    .txLaf, .flush, .redeclare, .periodic, .periodicTimer, .periodicEnabled, .periodicDisabled,
    .leaveTimer, .leaveallTimer][x.toNat]?.filter fun _ => 0 ≤ x

/-- The last line for a value: the three-packed event is passed on as it is. -/
def deliver (env : Env n) (p : Fin n) (t : State n) (pAttribute : Option MachineRef)
    (threePackedEvent : ℤ) : Option (State n × Option MachineRef) :=
  match pAttribute, mrpEventOfInt threePackedEvent with
  | some ref, some event => (madAttrEvent env t p ref event).map fun r => (r.1, some ref)
  | _, _ => none

/-- The values of a Domain are copied into `domain_attr_recv`. -/
def receiveDomain (t : State n) (p : Fin n) (fv : ℕ → UInt8) : State n :=
  t.setMachine p .domainAttrRecv { t.machine p .domainAttrRecv with
    isDomainAttr := true
    sRclassID := fv 0
    sRclassPriority := fv 1
    sRclassVID := (fv 2, fv 3)
    regState := .MT
    attrDir := .reg }

/-- One value of a vector. -/
def receiveValue (env : Env n) (p : Fin n) (t : State n) (pAttribute : Option MachineRef)
    (v : RxValue) : Option (State n × Option MachineRef) :=
  if v.attrType = .domainVector then
    deliver env p (receiveDomain t p v.firstValue) pAttribute v.threePackedEvent
  else match vtssMsrpFindStream env.charSigned t v.firstValue v.i with
    | some info =>
      match findAttributeByExistingStreamInfo t p v.attrType info with
      | none => none
      | some ref => deliver env p t (some ref) v.threePackedEvent
    | none =>
      match vtssMsrpAllocateStream env.charSigned t v.attrType v.firstValue v.i with
      | none => none
      | some (t, info) =>
        match getAttributeReg t p with
        | none => none
        | some (t, i) =>
          deliver env p (mrpAttributeInit t p (.slot i) v.attrType v.fourPackedEvent info)
            (some (.slot i)) v.threePackedEvent

/-- What the loops come across in a frame: a LeaveAll, or a value. -/
def receiveItem (env : Env n) (p : Fin n) (s : State n × Option MachineRef) (item : RxItem) :
    Option (State n × Option MachineRef) :=
  match item with
  | .leaveAll attrType =>
    ((madAttrtypeEvent env s.1 p attrType .rLa).bind fun t =>
      madParticipantEvent env t p .rLa).map fun t => (t, s.2)
  | .value v => receiveValue env p s.1 s.2 v

/-- `vtss_msrp_receive`. -/
def vtssMsrpReceive (env : Env n) (t : State n) (p : Fin n) (rxframe : Mem) (len : ℕ) :
    Option (State n) :=
  (Runs.run (receiveItem env p) (t, none) (rxItems env.charSigned rxframe len)).map Prod.fst

end Msrp
