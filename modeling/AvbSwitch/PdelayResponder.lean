/-
Answering a peer delay request: `process_rx_pdelay_req` and `send_ptp_pdelay_resp_msg`.

The two frames of an answer are built one after the other in `ptp_tx_buf`.  Two stores go to other
places than they are meant for: the ten assignments to `requestingPortIdentity` all have the index
zero, and the loop over the eight octets of `correctionField` takes ten turns.

* `pdelayRespHeader_holds` — the fields of the response, as they are stored;
* `pdelayFollowUp_followsUp` — what the follow-up has in common with the response;
* `pdelayResponder_echoes_iff` — the requests that are echoed.
-/
import AvbSwitch.FrameFields
import AvbSwitch.AnnounceFrame
import AvbSwitch.PdelayTermination

open Octets

namespace Gptp

/-! ### The functions -/

/-- A frame as it is handed to `h2_send_frame`. -/
structure TxFrame where
  port : UInt8
  ethernetHdr : List UInt8
  /-- behind the Ethernet header -/
  octets : Mem
  length : ℕ

/-- `struct gptpm` and `ptp_tx_buf`, as far as peer delay requests are answered from them. -/
structure PdelayResponder extends PdelaySystem where
  /-- `systemPriority.rootSystemIdentity.clockIdentity` -/
  rootClockIdentity : ClockIdentity
  numPorts : UInt8
  lastPeerRequestPortId : UInt8 → PortIdentity
  /-- `ptp_tx_buf` behind the Ethernet header -/
  ptpTxBuf : Mem

/-- `PTP_DEFAULT_DEST_ADDR`. -/
def ptpDefaultDestAddr : List UInt8 := [0x01, 0x80, 0xC2, 0x00, 0x00, 0x0E]

/-- What `set_ptp_ethernet_hdr` stores, for the port whose variables are `pp`. -/
def ptpEthernetHdr (pp : PdelayPort) : List UInt8 :=
  ptpDefaultDestAddr ++ pp.macaddr.toList ++ [0x88, 0xF7]

/-- `ptpex_os_tx_frame`, with a frame of `len` octets behind the Ethernet header. -/
def txFrame (p : UInt8) (ethernetHdr : List UInt8) (frame : Mem) (len : ℕ) : TxFrame :=
  ⟨p, ethernetHdr, ptpexOsTxFrame frame len, 14 + len + 4⟩

/-- The response, up to its timestamp. -/
def pdelayRespHeader (host : Host) (pp : PdelayPort) (rxBuffer buf : Mem) : Mem :=
  let m := fill buf 0 0 (34 + 20)
  let m := put m 1 2
  let m := put2 m 2 (34 + 20)
  let m := putList m 20 (clockIdentityOf pp.macaddr).toList
  let m := put2 m 28 pp.usPortNumber.toNat
  let m := put m 32 0x05
  let m := put m 33 0
  let m := put2 m 30 (unalHost2Nets host.bigEndian (shortAt rxBuffer 30))
  -- the same octet is stored ten times
  let m := put m 44 (rxBuffer 20)
  let m := put m 4 (rxBuffer 4)
  -- of the ten octets the last two are `Resv1[0]` and `Resv1[1]`
  let m := putList m 8 ((List.range 10).map fun i => rxBuffer (8 + i))
  put m 0 (0x10 ||| 0x03)

/-- The response. -/
def pdelayResponse (host : Host) (pp : PdelayPort) (rxBuffer : Mem) (rxTimestamp : PtpTime)
    (buf : Mem) : Mem :=
  putList (pdelayRespHeader host pp rxBuffer buf) 34 (putTimestamp host.bigEndian rxTimestamp)

/-- The follow-up, which is made of what the response has left in the buffer. -/
def pdelayFollowUp (host : Host) (rxTimestamp : PtpTime) (buf : Mem) : Mem :=
  putList (put buf 0 (0x10 ||| 0x0A)) 34 (putTimestamp host.bigEndian rxTimestamp)

/-- `send_ptp_pdelay_resp_msg`, and the frames that it sends. -/
def sendPtpPdelayRespMsg (host : Host) (clock : Clock) (t : PdelayResponder) (p : UInt8)
    (rxBuffer : Mem) : PdelayResponder × List TxFrame :=
  let ethernetHdr := ptpEthernetHdr (t.ports p)
  let pdelayReqRxTimestamp := getHardwareTimestamp host clock (t.ports p)
  let response := txFrame p ethernetHdr
    (pdelayResponse host (t.ports p) rxBuffer pdelayReqRxTimestamp t.ptpTxBuf) (34 + 20)
  let pdelayReqRxTimestamp :=
    { pdelayReqRxTimestamp with nanoseconds := pdelayReqRxTimestamp.nanoseconds + 1 }
  let followUp := txFrame p ethernetHdr
    (pdelayFollowUp host pdelayReqRxTimestamp response.octets) (34 + 20)
  ({ t with
      lastPeerRequestPortId :=
        Function.update t.lastPeerRequestPortId p (getSourcePortId rxBuffer)
      ptpTxBuf := followUp.octets },
    [response, followUp])

/-- `portEnabled` is cleared. -/
def PdelayResponder.disable (t : PdelayResponder) (p : UInt8) : PdelayResponder :=
  { t with toPdelaySystem := t.modify p fun pp => { pp with portEnabled := false } }

/-- `process_rx_pdelay_req`, and the frames that it sends. -/
def processRxPdelayReq (host : Host) (clock : Clock) (t : PdelayResponder) (p : UInt8)
    (rxBuffer : Mem) : PdelayResponder × List TxFrame :=
  let rxIdentity := getSourcePortId rxBuffer
  if compareClockIdentity rxIdentity.clockIdentity t.rootClockIdentity ≠ .eq then
    sendPtpPdelayRespMsg host clock t p rxBuffer
  else
    let rxPortNumber := rxIdentity.portNumber.get
    let t := t.disable p
    (if 1 ≤ rxPortNumber ∧ rxPortNumber ≤ t.numPorts.toNat then
      t.disable (UInt8.ofNat (rxPortNumber - 1)) else t, [])

/-! ### What an answer is to say -/

/-- The frame repeats what identifies the request. -/
structure EchoesRequest (request frame : Mem) : Prop where
  requestingPortIdentity : getReceivingPortId frame = getSourcePortId request
  sequenceId : shortAt frame 30 = shortAt request 30
  domainNumber : frame 4 = request 4
  correctionField : ∀ k, 8 ≤ k → k < 16 → frame k = request k
  resv1 : ∀ k, 16 ≤ k → k < 20 → frame k = 0

/-- The second frame is sent like the first one, and differs from it in the message type and the
timestamp only. -/
structure FollowsUp (response followUp : TxFrame) : Prop where
  port : followUp.port = response.port
  ethernetHdr : followUp.ethernetHdr = response.ethernetHdr
  length : followUp.length = response.length
  octets : ∀ k, k ≠ 0 → k < 34 ∨ 44 ≤ k → followUp.octets k = response.octets k

/-- A response and its follow-up, of message types 3 and 10, that echo the request. -/
def EchoedBy (request : Mem) (frames : List TxFrame) : Prop :=
  ∃ response followUp, frames = [response, followUp] ∧
    response.octets 0 = 0x13 ∧ followUp.octets 0 = 0x1A ∧
    EchoesRequest request response.octets ∧ EchoesRequest request followUp.octets ∧
    FollowsUp response followUp

/-- The identity of the sender is its first octet, and `Resv1` begins with zeros. -/
structure OneOctetIdentity (request : Mem) : Prop where
  identity : ∀ k, 21 ≤ k → k < 30 → request k = 0
  resv1 : request 16 = 0 ∧ request 17 = 0

/-! ### The frames -/

/-- What is stored in both frames. -/
structure HoldsAnswer (request frame : Mem) : Prop where
  first : frame 44 = request 20
  others : ∀ k, 45 ≤ k → k < 54 → frame k = 0
  sequenceId : shortAt frame 30 = shortAt request 30
  domainNumber : frame 4 = request 4
  correctionField : ∀ k, 8 ≤ k → k < 18 → frame k = request k
  resv1 : ∀ k, 18 ≤ k → k < 20 → frame k = 0

variable {host : Host} {clock : Clock} {t : PdelayResponder} {p : UInt8} {pp : PdelayPort}
  {request m m' buf : Mem} {ts : PtpTime} {k len : ℕ}

theorem txFrame_of_lt {ethernetHdr : List UInt8} (hk : k < len) :
    (txFrame p ethernetHdr m len).octets k = m k :=
  putList_of_lt hk

/-- Only the octet itself, and the trailing octets, matter to what is sent. -/
theorem txFrame_congr {ethernetHdr : List UInt8}
    (hk : m' k = (txFrame p ethernetHdr m len).octets k) :
    (txFrame p ethernetHdr m' len).octets k = (txFrame p ethernetHdr m len).octets k := by
  by_cases hin : k < len ∨ len + 4 ≤ k
  · rw [← hk]
    exact putList_frame hin
  · -- the trailing octets are the same in every frame
    have htrailing : ∀ m : Mem, (txFrame p ethernetHdr m len).octets k = 0x55 := by
      intro m
      have hoctet := (@holds_putList m len [0x55, 0x55, 0x55, 0x55]).getElem
        (k := k - len) (show k - len < 4 by omega)
      rw [show len + (k - len) = k by omega] at hoctet
      obtain hk | hk | hk | hk : k - len = 0 ∨ k - len = 1 ∨ k - len = 2 ∨ k - len = 3 := by
        omega
      all_goals
        simp only [hk] at hoctet
        exact hoctet
    rw [htrailing, htrailing]

/-- The loop over `correctionField`. -/
theorem putList_range_map (hk : 8 ≤ k) (hk' : k < 18) :
    putList m 8 ((List.range 10).map fun i => request (8 + i)) k = request k := by
  have hlen : k - 8 < ((List.range 10).map fun i => request (8 + i)).length := by
    rw [List.length_map, List.length_range]
    omega
  have hoctet := (@holds_putList m 8 ((List.range 10).map fun i => request (8 + i))).getElem hlen
  rw [List.getElem_map, List.getElem_range, show 8 + (k - 8) = k by omega] at hoctet
  exact hoctet

theorem pdelayRespHeader_holds : HoldsAnswer request (pdelayRespHeader host pp request buf) := by
  have hfill : (List.replicate (34 + 20) (0 : UInt8)).length = 54 := List.length_replicate
  have hid := (clockIdentityOf pp.macaddr).length_toList
  have hcorrection : ((List.range 10).map fun i => request (8 + i)).length = 10 := by
    rw [List.length_map, List.length_range]
  -- the octets that are not stored to after `memset`
  have hzero : ∀ k, (18 ≤ k ∧ k < 20) ∨ (45 ≤ k ∧ k < 54) →
      pdelayRespHeader host pp request buf k = 0 := by
    intro k hk
    have hfilled := (@holds_putList buf 0 (List.replicate (34 + 20) 0)).getElem
      (k := k) (by omega)
    rw [List.getElem_replicate, Nat.zero_add] at hfilled
    rcases hk with hk | hk
    all_goals
      rw [pdelayRespHeader, fill]
      simp (disch := omega) only [put_other, put2_of_lt, put2_of_ge, putList_frame]
      exact hfilled
  refine ⟨?_, fun k hk hk' => hzero k (Or.inr ⟨hk, hk'⟩), ?_, ?_, fun k hk hk' => ?_,
    fun k hk hk' => hzero k (Or.inl ⟨hk, hk'⟩)⟩
  · rw [pdelayRespHeader]
    simp (disch := omega) only [put_other, put_same, putList_of_ge]
  · rw [pdelayRespHeader]
    simp (disch := omega) only [shortAt_put, shortAt_putList, shortAt_put2_same,
      unalHost2Nets_eq, Short.put_get]
  · rw [pdelayRespHeader]
    simp (disch := omega) only [put_other, put_same, putList_of_lt]
  · rw [pdelayRespHeader, put_other (by omega), putList_range_map hk hk']

/-- The message type and the timestamp are other octets. -/
theorem HoldsAnswer.congr (h : HoldsAnswer request m)
    (heq : ∀ k, k ≠ 0 → k < 34 ∨ 44 ≤ k → k < 54 → m' k = m k) : HoldsAnswer request m' where
  first := (heq 44 (by omega) (by omega) (by omega)).trans h.first
  others k hk hk' := (heq k (by omega) (by omega) hk').trans (h.others k hk hk')
  sequenceId :=
    (shortAt_congr fun k hk hk' => heq k (by omega) (by omega) (by omega)).trans h.sequenceId
  domainNumber := (heq 4 (by omega) (by omega) (by omega)).trans h.domainNumber
  correctionField k hk hk' :=
    (heq k (by omega) (by omega) (by omega)).trans (h.correctionField k hk hk')
  resv1 k hk hk' := (heq k (by omega) (by omega) (by omega)).trans (h.resv1 k hk hk')

theorem getReceivingPortId_eq_iff : getReceivingPortId m = getSourcePortId request ↔
    ∀ k, k < 10 → m (44 + k) = request (20 + k) := by
  rw [getReceivingPortId, getSourcePortId, PortIdentity.mk.injEq, clockIdentityAt,
    clockIdentityAt, shortAt, shortAt, Short.mk.injEq]
  constructor
  · rintro ⟨hclock, h52, h53⟩ k hk
    by_cases hk8 : k < 8
    · have hoctet := congrArg (fun identity : ClockIdentity => identity[k]) hclock
      simpa only [Vector.getElem_ofFn] using hoctet
    · obtain rfl | rfl : k = 8 ∨ k = 9 := by omega
      · exact h52
      · exact h53
  · intro h
    exact ⟨congrArg _ (funext fun k => h k (by omega)), h 8 (by omega), h 9 (by omega)⟩

/-- **What the stores make of an echo**: the request has to have zeros where nothing is stored,
and where too much is. -/
theorem HoldsAnswer.echoes_iff (h : HoldsAnswer request m) :
    EchoesRequest request m ↔ OneOctetIdentity request := by
  constructor
  · intro hecho
    have hidentity := getReceivingPortId_eq_iff.mp hecho.requestingPortIdentity
    refine ⟨fun k hk hk' => ?_, ?_, ?_⟩
    · have hoctet := hidentity (k - 20) (by omega)
      rw [show 20 + (k - 20) = k by omega] at hoctet
      rw [← hoctet, h.others _ (by omega) (by omega)]
    · rw [← h.correctionField 16 (by omega) (by omega), hecho.resv1 16 (by omega) (by omega)]
    · rw [← h.correctionField 17 (by omega) (by omega), hecho.resv1 17 (by omega) (by omega)]
  · intro hzero
    refine ⟨?_, h.sequenceId, h.domainNumber, fun k hk hk' => h.correctionField k hk (by omega),
      fun k hk hk' => ?_⟩
    · refine getReceivingPortId_eq_iff.mpr fun k hk => ?_
      by_cases hk0 : k = 0
      · rw [hk0]
        exact h.first
      · rw [h.others _ (by omega) (by omega), hzero.identity _ (by omega) (by omega)]
    · by_cases hk18 : k < 18
      · rw [h.correctionField k (by omega) hk18]
        obtain rfl | rfl : k = 16 ∨ k = 17 := by omega
        · exact hzero.resv1.1
        · exact hzero.resv1.2
      · exact h.resv1 k (by omega) hk'

/-! ### The answer -/

/-- The follow-up is the response, but for the message type and the timestamp. -/
theorem pdelayFollowUp_of_ne (hk : k ≠ 0) (hk' : k < 34 ∨ 44 ≤ k) :
    pdelayFollowUp host ts m k = m k := by
  have hts := @putTimestamp_length host.bigEndian ts
  rw [pdelayFollowUp, putList_frame (by omega), put_other hk]

theorem pdelayResponse_holds {ethernetHdr : List UInt8} : HoldsAnswer request
    (txFrame p ethernetHdr (pdelayResponse host pp request ts buf) (34 + 20)).octets := by
  refine (@pdelayRespHeader_holds host pp request buf).congr fun k _ hk hk' => ?_
  have hts := @putTimestamp_length host.bigEndian ts
  rw [txFrame_of_lt (show k < 34 + 20 from hk'), pdelayResponse, putList_frame (by omega)]

theorem pdelayResponse_messageType {ethernetHdr : List UInt8} :
    (txFrame p ethernetHdr (pdelayResponse host pp request ts buf) (34 + 20)).octets 0 = 0x13 := by
  rw [txFrame_of_lt (by omega), pdelayResponse, putList_of_lt (by omega), pdelayRespHeader]
  exact put_same

theorem pdelayFollowUp_messageType {ethernetHdr : List UInt8} :
    (txFrame p ethernetHdr (pdelayFollowUp host ts m) (34 + 20)).octets 0 = 0x1A := by
  rw [txFrame_of_lt (by omega), pdelayFollowUp, putList_of_lt (by omega)]
  exact put_same

/-- What is sent after the response follows it up. -/
theorem pdelayFollowUp_followsUp {ethernetHdr : List UInt8} :
    FollowsUp (txFrame p ethernetHdr m len)
      (txFrame p ethernetHdr (pdelayFollowUp host ts (txFrame p ethernetHdr m len).octets) len) :=
  ⟨rfl, rfl, rfl, fun _ hk hk' => txFrame_congr (pdelayFollowUp_of_ne hk hk')⟩

/-- The two frames of an answer. -/
theorem sendPtpPdelayRespMsg_frames : ∃ response followUp,
    (sendPtpPdelayRespMsg host clock t p request).2 = [response, followUp] ∧
      response.octets 0 = 0x13 ∧ followUp.octets 0 = 0x1A ∧
      HoldsAnswer request response.octets ∧ HoldsAnswer request followUp.octets ∧
      FollowsUp response followUp := by
  refine ⟨_, _, rfl, pdelayResponse_messageType, pdelayFollowUp_messageType, pdelayResponse_holds,
    ?_, pdelayFollowUp_followsUp⟩
  exact pdelayResponse_holds.congr fun k hk hk' _ => pdelayFollowUp_followsUp.octets k hk hk'

/-- What `send_ptp_pdelay_resp_msg` sends echoes the request only if nearly all of it is zero. -/
theorem sendPtpPdelayRespMsg_echoedBy_iff :
    EchoedBy request (sendPtpPdelayRespMsg host clock t p request).2 ↔ OneOctetIdentity request := by
  obtain ⟨response, followUp, hframes, hresponse, hfollowUp, hholds, hholds', hfollows⟩ :=
    @sendPtpPdelayRespMsg_frames host clock t p request
  rw [hframes]
  constructor
  · rintro ⟨response', followUp', heq, -, -, hecho, -⟩
    obtain ⟨rfl, -⟩ := List.cons_eq_cons.mp heq
    exact hholds.echoes_iff.mp hecho
  · intro hzero
    exact ⟨response, followUp, rfl, hresponse, hfollowUp, hholds.echoes_iff.mpr hzero,
      hholds'.echoes_iff.mpr hzero, hfollows⟩

/-- A request of another system is answered. -/
theorem processRxPdelayReq_of_other
    (hother : (getSourcePortId request).clockIdentity ≠ t.rootClockIdentity) :
    processRxPdelayReq host clock t p request = sendPtpPdelayRespMsg host clock t p request :=
  if_pos fun h => hother (compareClockIdentity_eq_iff.mp h)

/-- **When a request is echoed.**  The two frames that answer a request of another system echo it,
and the second follows up the first, if and only if the identity of the sender is no more than its
first octet and `Resv1` begins with zeros. -/
theorem pdelayResponder_echoes_iff (host : Host) (clock : Clock) (t : PdelayResponder) (p : UInt8)
    (request : Mem) (hother : (getSourcePortId request).clockIdentity ≠ t.rootClockIdentity) :
    EchoedBy request (processRxPdelayReq host clock t p request).2 ↔ OneOctetIdentity request := by
  rw [processRxPdelayReq_of_other hother]
  exact sendPtpPdelayRespMsg_echoedBy_iff

/-! ### A request of a neighbour -/

/-- Two ports, with the identity of `exampleMac`. -/
def exampleResponder : PdelayResponder where
  ports := freshPort
  grandmasterIdentity := clockIdentityOf exampleMac
  delayMechanism := delayMechanismP2P
  rootClockIdentity := clockIdentityOf exampleMac
  numPorts := 2
  lastPeerRequestPortId _ := ⟨Vector.replicate 8 0, ⟨0, 0⟩⟩
  ptpTxBuf := fun _ => 0

/-- A request that the first port of another instance sends. -/
def neighborRequest : Mem :=
  pdelayRequest bigEndianHost ⟨0, 0, 0⟩
    { freshPort 0 with macaddr := Vector.replicate 6 0x20 }

theorem neighborRequest_other :
    (getSourcePortId neighborRequest).clockIdentity ≠ exampleResponder.rootClockIdentity := by
  decide

theorem pdelayResponder_echoes_neighbor :
    EchoedBy neighborRequest
        (processRxPdelayReq bigEndianHost atBoot exampleResponder 0 neighborRequest).2 ↔
      OneOctetIdentity neighborRequest :=
  pdelayResponder_echoes_iff _ _ _ _ _ neighborRequest_other

/-- The neighbour does not find itself in the answer. -/
theorem neighborRequest_not_echoed :
    (getSourcePortId neighborRequest).clockIdentity ≠ exampleResponder.rootClockIdentity ∧
      ¬ EchoedBy neighborRequest
        (processRxPdelayReq bigEndianHost atBoot exampleResponder 0 neighborRequest).2 := by
  refine ⟨neighborRequest_other, fun hecho => ?_⟩
  rw [processRxPdelayReq_of_other neighborRequest_other, sendPtpPdelayRespMsg_echoedBy_iff] at hecho
  have h21 : neighborRequest 21 = 0x20 := by decide
  exact absurd (h21.symm.trans (hecho.identity 21 (by omega) (by omega))) (by decide)

end Gptp
