/-
The send buffer of a participant: encoding attributes into the PDU.

Addresses are offsets into `send_buf`.  A message is a message header (four
octets), a vector header (two), a first value, the packed events and an end mark;
`doTx` merges an attribute into an earlier message of its type or starts a new one.

A store beyond the buffer is undefined in the source, and there `doTx` is `none`.
-/
import AvbSwitch.MsrpData

namespace Msrp

open Octets

/-- `send_buf` and `send_ptr`, the end of what has been encoded. -/
structure SendBuffer where
  sendBuf : Mem
  sendPtr : ℕ

/-- `MRP_SEND_BUFFER_SIZE`. -/
def mrpSendBufferSize : ℕ := 1518

/-- `sizeof(mrp_ethernet_hdr) + sizeof(mrp_header)`, where the first message starts. -/
def firstMsg : ℕ := 15

def mymemmove (m : Mem) (dest src n : ℕ) : Mem :=
  if src < dest ∧ dest < src + n then copyDown m dest src n else copyUp m dest src n

theorem mymemmove_apply (m : Mem) (dest src n k : ℕ) :
    mymemmove m dest src n k = if dest ≤ k ∧ k < dest + n then m (src + (k - dest)) else m k := by
  rw [mymemmove]
  by_cases h : src < dest ∧ dest < src + n
  · rw [if_pos h, copyDown_apply (by omega)]
  · rw [if_neg h, copyUp_apply (by omega)]

/-! ### Message headers -/

/-- `attribute_length_length` of the message at `hdr`. -/
def attributeLengthLength (m : Mem) (hdr : ℕ) : ℕ := get2 m (hdr + 2)

/-- `NumberOfValuesLow` of the message at `buf`. -/
def numberOfValuesLow (m : Mem) (buf : ℕ) : ℕ := (m (buf + 5)).toNat

/-- The first value of the message at `buf`. -/
def firstValue (m : Mem) (buf : ℕ) : ℕ → UInt8 := at_ m (buf + 6)

def createEmptyMsg (p : SendBuffer) (attr : AttributeType) (leaveAll : ℕ) : SendBuffer :=
  let hdr := p.sendPtr
  let vectorLength := 0
  let attrListLength := firstValueLengths attr + 2 + vectorLength + 2
  let msgLength := 4 + attrListLength
  let m := fill p.sendBuf hdr 0 msgLength
  let m := put m hdr (UInt8.ofNat (encodeAttrType attr))
  let m := put m (hdr + 1) (UInt8.ofNat (firstValueLengths attr))
  let m := put2 m (hdr + 2) attrListLength
  let m := put m (hdr + 4) (UInt8.ofNat (leaveAll <<< 5))
  let m := put m (hdr + 5) 0
  ⟨m, hdr + msgLength⟩

/-! ### Packed events -/

/-- `encode_three_packed` (`b = 6`, `k = 3`) and `encode_four_packed` (`b = 4`, `k = 4`). -/
def encodePacked (b k event i vector : ℕ) : ℕ := vector + (· * b)^[k - 1 - i] event

/-- `mrp_encode_three_packed_event` and `mrp_encode_four_packed_event`, which differ in
the packing and in where the octet of the new value, `vector`, lies. -/
def encodePackedEvent (b k : ℕ) (p : SendBuffer) (buf vector event : ℕ) : SendBuffer :=
  let numValues := numberOfValuesLow p.sendBuf buf
  let attrListLength := attributeLengthLength p.sendBuf buf
  let p : SendBuffer :=
    if numValues % k = 0 then
      let m := if vector < p.sendPtr then
          mymemmove p.sendBuf (vector + 1) vector (p.sendPtr - vector)
        else p.sendBuf
      let m := put m vector 0
      let attrListLength := attrListLength + 1
      let m := put2 m (buf + 2) attrListLength
      let endmark := buf + 4 + attrListLength - 2
      ⟨put (put m endmark 0) (endmark + 1) 0, p.sendPtr + 1⟩
    else p
  ⟨put p.sendBuf vector (UInt8.ofNat
    (encodePacked b k event (numValues % k) (p.sendBuf vector).toNat)), p.sendPtr⟩

def mrpEncodeThreePackedEvent (p : SendBuffer) (buf event : ℕ) (attr : AttributeType) :
    SendBuffer :=
  encodePackedEvent 6 3 p buf
    (buf + 4 + 2 + firstValueLengths attr + numberOfValuesLow p.sendBuf buf / 3) event

def mrpEncodeFourPackedEvent (p : SendBuffer) (buf event : ℕ) (attr : AttributeType) :
    SendBuffer :=
  encodePackedEvent 4 4 p buf
    (buf + 4 + 2 + firstValueLengths attr + (numberOfValuesLow p.sendBuf buf + 3) / 3 +
      numberOfValuesLow p.sendBuf buf / 4) event

/-! ### Merging -/

/-- `hdr->NumberOfValuesLow = num_values + 1`. -/
def bumpValues (p : SendBuffer) (buf numValues : ℕ) : SendBuffer :=
  ⟨put p.sendBuf (buf + 5) (UInt8.ofNat (numValues + 1)), p.sendPtr⟩

def checkDomainMerge : Bool := false

/-- `AVB_SRP_SRCLASS_DEFAULT`, `AVB_SRP_TSPEC_PRIORITY_DEFAULT` and `AVB_DEFAULT_VLAN`. -/
def domainFirstValue : List UInt8 := [6, 3, 0, 2]

def mergeDomainMessage (p : SendBuffer) (buf vector : ℕ) : Bool × SendBuffer :=
  if p.sendBuf buf ≠ UInt8.ofNat (encodeAttrType .domainVector) then (false, p)
  else
    let numValues := numberOfValuesLow p.sendBuf buf
    let merge := if numValues = 0 then true else checkDomainMerge
    if merge then
      let p : SendBuffer := ⟨putList p.sendBuf (buf + 6) domainFirstValue, p.sendPtr⟩
      let p := mrpEncodeThreePackedEvent p buf vector .domainVector
      (true, bumpValues p buf numValues)
    else (false, p)

/-- The low octet of a word. -/
def lowOctet (w : UInt32) : UInt8 := UInt8.ofNat w.toNat

/-- The octets that are stored for a StreamID.  The words are shifted to the left, so
that only the lowest octet of each word is ever stored. -/
def streamIdOctets (info : StreamInfo) : List UInt8 :=
  [lowOctet (info.id0 <<< 0), lowOctet (info.id0 <<< 8), lowOctet (info.id0 <<< 16),
    lowOctet (info.id0 <<< 24), lowOctet (info.id1 <<< 0), lowOctet (info.id1 <<< 8),
    lowOctet (info.id1 <<< 16), lowOctet (info.id1 <<< 24)]

/-- The two words of the StreamID in a first value. -/
def firstValueStreamID (fv : ℕ → UInt8) : UInt32 × UInt32 :=
  (shiftIn (octetWord (fv 0)) (octetWord (fv 1)) (octetWord (fv 2)) (octetWord (fv 3)),
    shiftIn (octetWord (fv 4)) (octetWord (fv 5)) (octetWord (fv 6)) (octetWord (fv 7)))

def checkListenerMerge (fv : ℕ → UInt8) (numValues : ℕ) (info : StreamInfo) : Bool :=
  (firstValueStreamID fv).1 = info.id0 ∧
    (firstValueStreamID fv).2 + UInt32.ofNat numValues = info.id1

/-- `AVB_SRP_FOUR_PACKED_EVENT_READY`. -/
def fourPackedReady : ℕ := 2

def mergeListenerMessage (p : SendBuffer) (info : StreamInfo) (buf vector : ℕ) :
    Bool × SendBuffer :=
  if p.sendBuf buf ≠ UInt8.ofNat (encodeAttrType .listener) then (false, p)
  else
    let numValues := numberOfValuesLow p.sendBuf buf
    let merge := if numValues = 0 then true
      else checkListenerMerge (firstValue p.sendBuf buf) numValues info
    if merge then
      let p : SendBuffer := if numValues = 0 then
          ⟨putList p.sendBuf (buf + 6) (streamIdOctets info), p.sendPtr⟩
        else p
      let p := mrpEncodeThreePackedEvent p buf vector .listener
      let p := mrpEncodeFourPackedEvent p buf fourPackedReady .listener
      (true, bumpValues p buf numValues)
    else (false, p)

/-- The address words of `check_talker_merge`: four octets and two octets. -/
def addrWords (w : ℕ → UInt32) : UInt32 × UInt32 :=
  (shiftIn (w 0) (w 1) (w 2) (w 3), shiftIn 0 0 (w 4) (w 5))

/-- `check_talker_merge`: one of four comparisons is enough.  The octets of `addr` are
plain `char`s, those of the first value are not. -/
def checkTalkerMerge (signed : Bool) (info : StreamInfo) (fv : ℕ → UInt8) (numValues : ℕ) : Bool :=
  let my := addrWords fun i => charWord signed (info.addr.toList.getD i 0)
  let dest := addrWords fun i => octetWord (fv (8 + i))
  let id := firstValueStreamID fv
  if dest.1 = my.1 ∧ dest.2 + UInt32.ofNat numValues = my.2 then true
  else if info.id0 = id.1 ∧ info.id1 = id.2 + UInt32.ofNat numValues then true
  else if (fv 14).toNat * 256 + (fv 15).toNat = info.vlan.toNat then true
  else if (fv 16).toNat * 256 + (fv 17).toNat = info.maxframesize.toNat then true
  else false

/-- The stores that fill the first value of a Talker Advertise message at `fv`. -/
def putTalkerFirstValue (m : Mem) (fv : ℕ) (info : StreamInfo) : Mem :=
  let m := putList m (fv + 8) info.addr.toList
  let m := putList m fv (streamIdOctets info)
  let m := put2 m (fv + 14) info.vlan.toNat
  let m := put m (fv + 20) info.tspec
  let m := put2 m (fv + 16) info.maxframesize.toNat
  let m := put2 m (fv + 18) info.maxintframes.toNat
  put4 m (fv + 21) (info.accumulatedLatency + 1).toNat

def mergeTalkerMessage (signed : Bool) (p : SendBuffer) (info : StreamInfo) (buf vector : ℕ) :
    Bool × SendBuffer :=
  if p.sendBuf buf ≠ UInt8.ofNat (encodeAttrType .talkerAdvertise) then (false, p)
  else
    let numValues := numberOfValuesLow p.sendBuf buf
    let merge := if numValues = 0 then true
      else checkTalkerMerge signed info (firstValue p.sendBuf buf) numValues
    if merge then
      let p : SendBuffer := if numValues = 0 then
          ⟨putTalkerFirstValue p.sendBuf (buf + 6) info, p.sendPtr⟩
        else p
      let p := mrpEncodeThreePackedEvent p buf vector .talkerAdvertise
      (true, bumpValues p buf numValues)
    else (false, p)

/-- `merge_msg` and `avb_srp_merge_message`: Talker Failed has no merge function. -/
def mergeMsg (signed : Bool) (p : SendBuffer) (info : StreamInfo) (buf : ℕ)
    (attr : AttributeType) (vector : ℕ) : Bool × SendBuffer :=
  match attr with
  | .talkerAdvertise => mergeTalkerMessage signed p info buf vector
  | .listener => mergeListenerMessage p info buf vector
  | .domainVector => mergeDomainMessage p buf vector
  | .talkerFailed => (false, p)

/-! ### Sending -/

/-- The loop of `doTx` over the messages up to `fin`: whether the attribute was merged,
the buffer, and the address at which the loop stopped. -/
def mergeLoop (signed : Bool) (info : StreamInfo) (attr : AttributeType) (vector fin : ℕ) :
    ℕ → SendBuffer → ℕ → Option (Bool × SendBuffer × ℕ)
  | 0, _, _ => none
  | fuel + 1, p, msg =>
    if msg < fin ∧ (p.sendBuf msg ≠ 0 ∨ p.sendBuf (msg + 1) ≠ 0) then
      let (merged, p) := mergeMsg signed p info msg attr vector
      let next := msg + 4 + attributeLengthLength p.sendBuf msg
      if merged then some (true, p, next)
      else mergeLoop signed info attr vector fin fuel p next
    else some (false, p, msg)

/-- `doTx`.  `info` is the stream information that the machine points to; a Domain or
Talker Failed machine does not read it. -/
def doTx (signed : Bool) (p : SendBuffer) (attr : AttributeType) (info : StreamInfo)
    (vector : ℕ) : Option SendBuffer :=
  match mergeLoop signed info attr vector p.sendPtr (p.sendPtr + 1) p firstMsg with
  | none => none
  | some (merged, q, msg) =>
    let q := if merged then q
      else (mergeMsg signed (createEmptyMsg q attr 0) info msg attr vector).2
    if q.sendPtr ≤ mrpSendBufferSize then some q else none

/-- Every turn of the loop moves up by a message header at least, so the fuel that
`doTx` gives it is never used up. -/
theorem mergeLoop_isSome {signed : Bool} {info : StreamInfo} {attr : AttributeType}
    {vector fin : ℕ} : ∀ {fuel : ℕ} {p : SendBuffer} {msg : ℕ}, fin ≤ msg + fuel →
      (mergeLoop signed info attr vector fin (fuel + 1) p msg).isSome := by
  intro fuel
  induction fuel with
  | zero =>
    intro p msg h
    rw [mergeLoop, if_neg (by omega)]
    rfl
  | succ fuel ih =>
    intro p msg h
    rw [mergeLoop]
    split
    · rcases hmerge : mergeMsg signed p info msg attr vector with ⟨merged, q⟩
      rcases merged with _ | _
      · exact ih (by omega)
      · rfl
    · rfl

/-- `mrp_pdu_check_send`: what is stored behind the frame before it is handed on. -/
def mrpPduCheckSend (m : Mem) (len : ℕ) : Mem × ℕ := (fill m len 0x55 4, len + 4)

/-- `mrp_pdu_ex_send`: the octets handed to the driver and their number, the buffer
being emptied.  Nothing is sent from an empty buffer, and where the stores would run over
the end of the buffer there is no result. -/
def mrpPduExSend (p : SendBuffer) : Option (Option (Mem × ℕ) × SendBuffer) :=
  if p.sendPtr ≠ firstMsg then
    let fin := max (p.sendPtr + 4) 64
    let frame := mrpPduCheckSend (fill p.sendBuf p.sendPtr 0 (fin - p.sendPtr)) fin
    if frame.2 ≤ mrpSendBufferSize then some (some frame, ⟨frame.1, firstMsg⟩) else none
  else some (none, ⟨p.sendBuf, firstMsg⟩)

/-- A PDU that leaves room for the last stores is sent. -/
theorem mrpPduExSend_eq {p : SendBuffer} (hne : p.sendPtr ≠ firstMsg)
    (hfit : p.sendPtr + 8 ≤ mrpSendBufferSize) :
    let fin := max (p.sendPtr + 4) 64
    let m := fill (fill p.sendBuf p.sendPtr 0 (fin - p.sendPtr)) fin 0x55 4
    mrpPduExSend p = some (some (m, fin + 4), ⟨m, firstMsg⟩) := by
  intro fin m
  have hsize : mrpSendBufferSize = 1518 := rfl
  have hle : fin + 4 ≤ mrpSendBufferSize := by omega
  rw [mrpPduExSend, if_pos hne]
  exact if_pos hle

end Msrp
