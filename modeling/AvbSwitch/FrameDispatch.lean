/-
Dispatching a received frame: `vtss_gptp_receive`.

The function takes the octet at the end of the Ethernet header for the address of the common
header: where it should take the address of `rxframe[ethernet_pkt_size]`, it takes its value.  Here
the frame is in a memory, at an address, so that both can be said.

* `rxCall` — the call that the function makes; it does nothing else;
* `DispatchedOnHeader` — the call that it is to make;
* `dispatchedOnHeader_iff` — the frames for which they are the same;
* `dispatchedOnHeader_iff_of_high` — a buffer above the first 256 octets is never dispatched to a
  handler on its own header.
-/
import AvbSwitch.Octets

open Octets

namespace Gptp

/-- The handlers of the messages. -/
inductive RxHandler
  | processRxAnnounce
  | processRxSync
  | processRxFup
  | processRxPdelayReq
  | processRxPdelayResp
  | processRxPdelayRespFup
  | processRxSignaling
  deriving DecidableEq, Repr

/-- The `switch`, on the first octet of the common header. -/
def rxHandler (transportSpecificMessageType : UInt8) : Option RxHandler :=
  let messageType := transportSpecificMessageType &&& 0xF
  if messageType = 0xB then some .processRxAnnounce
  else if messageType = 0x0 then some .processRxSync
  else if messageType = 0x8 then some .processRxFup
  else if messageType = 0x1 then none
  else if messageType = 0x2 then some .processRxPdelayReq
  else if messageType = 0x3 then some .processRxPdelayResp
  else if messageType = 0xA then some .processRxPdelayRespFup
  else if messageType = 0xC then some .processRxSignaling
  else none

/-- A call of a handler, with the address of the common header. -/
structure RxCall where
  handler : RxHandler
  fromPort : UInt8
  msg : ℕ
  deriving DecidableEq, Repr

/-- `ethernet_pkt_size`: a tag is looked for in the second octet of the ethertype. -/
def ethernetPktSize (mem : Mem) (rxframe : ℕ) : ℕ := if mem (rxframe + 13) = 0x18 then 18 else 14

/-- The call that `vtss_gptp_receive` makes, if any.  It does not look at the length. -/
def rxCall (mem : Mem) (fromPort : UInt8) (rxframe : ℕ) (_len : ℕ) : Option RxCall :=
  let msg := (mem (rxframe + ethernetPktSize mem rxframe)).toNat
  (rxHandler (mem msg)).map fun handler => ⟨handler, fromPort, msg⟩

/-! ### What is to be called -/

/-- Where the common header of a gPTP frame begins. -/
inductive HeaderAt (mem : Mem) (rxframe : ℕ) : ℕ → Prop
  | untagged (h12 : mem (rxframe + 12) = 0x88) (h13 : mem (rxframe + 13) = 0xF7) :
    HeaderAt mem rxframe 14
  | tagged (h12 : mem (rxframe + 12) = 0x81) (h13 : mem (rxframe + 13) = 0x00)
      (h16 : mem (rxframe + 16) = 0x88) (h17 : mem (rxframe + 17) = 0xF7) :
    HeaderAt mem rxframe 18

/-- The handler of the message type in the header is called with the address of the header, and a
frame that is too short for a header is not handled. -/
def DispatchedOnHeader (mem : Mem) (fromPort : UInt8) (rxframe len : ℕ) : Prop :=
  ∀ offset, HeaderAt mem rxframe offset →
    rxCall mem fromPort rxframe len =
      if offset + 34 ≤ len then
        (rxHandler (mem (rxframe + offset))).map fun handler => ⟨handler, fromPort, rxframe + offset⟩
      else none

/-- Either there is nothing to be called, neither for the header nor for what lies at the address
that the octet behind the ethertype gives, or this address is that of the header. -/
def HeaderAtItsValue (mem : Mem) (rxframe len : ℕ) : Prop :=
  ∀ offset, HeaderAt mem rxframe offset →
    rxHandler (mem (mem (rxframe + 14)).toNat) = none ∧
        (offset + 34 ≤ len → rxHandler (mem (rxframe + offset)) = none) ∨
      offset + 34 ≤ len ∧ (mem (rxframe + 14)).toNat = rxframe + offset

/-! ### When it is called -/

variable {mem : Mem} {fromPort : UInt8} {rxframe len offset : ℕ}

/-- No tag is found in a gPTP frame, tagged or not. -/
theorem HeaderAt.ethernetPktSize (h : HeaderAt mem rxframe offset) :
    ethernetPktSize mem rxframe = 14 := by
  cases h with
  | untagged _ h13 | tagged _ h13 => simp [Gptp.ethernetPktSize, h13]

/-- Two calls are the same if there is none, or if they are made with the same address. -/
theorem map_rxHandler_eq_iff {msg msg' : ℕ} :
    ((rxHandler (mem msg)).map fun handler => RxCall.mk handler fromPort msg) =
        ((rxHandler (mem msg')).map fun handler => RxCall.mk handler fromPort msg') ↔
      rxHandler (mem msg) = none ∧ rxHandler (mem msg') = none ∨ msg = msg' := by
  constructor
  · intro h
    cases hhandler : rxHandler (mem msg) with
    | none =>
      rw [hhandler, Option.map_none] at h
      exact Or.inl ⟨rfl, Option.map_eq_none_iff.mp h.symm⟩
    | some handler =>
      rw [hhandler, Option.map_some] at h
      obtain ⟨handler', -, hcall⟩ := Option.map_eq_some_iff.mp h.symm
      exact Or.inr (congrArg RxCall.msg hcall).symm
  · rintro (⟨hnone, hnone'⟩ | rfl)
    · rw [hnone, hnone', Option.map_none, Option.map_none]
    · rfl

/-- **When a frame is dispatched on its own header.** -/
theorem dispatchedOnHeader_iff (mem : Mem) (fromPort : UInt8) (rxframe len : ℕ) :
    DispatchedOnHeader mem fromPort rxframe len ↔ HeaderAtItsValue mem rxframe len := by
  refine forall₂_congr fun offset hheader => ?_
  rw [rxCall, hheader.ethernetPktSize]
  split
  case isTrue hlen => simp only [hlen, map_rxHandler_eq_iff, true_and, forall_const]
  case isFalse hlen => simp [hlen]

/-- **Above the first 256 octets of the memory** no gPTP frame is dispatched to a handler on its own
header. -/
theorem dispatchedOnHeader_iff_of_high (hhigh : 256 ≤ rxframe) :
    DispatchedOnHeader mem fromPort rxframe len ↔ ∀ offset, HeaderAt mem rxframe offset →
      rxHandler (mem (mem (rxframe + 14)).toNat) = none ∧
        (offset + 34 ≤ len → rxHandler (mem (rxframe + offset)) = none) := by
  rw [dispatchedOnHeader_iff]
  refine forall₂_congr fun offset _ => or_iff_left fun h => ?_
  have hlt := (mem (rxframe + 14)).toNat_lt
  omega

/-- A Sync message at the address 4096, in a memory that is zero otherwise. -/
def syncAtAddress : Mem := putList (fun _ => 0) (4096 + 12) [0x88, 0xF7, 0x10, 0x02]

/-- **The handler gets the address 16**, which is the octet of the message type. -/
theorem syncAtAddress_not_dispatched :
    ¬ DispatchedOnHeader syncAtAddress 0 4096 64 ∧
      rxCall syncAtAddress 0 4096 64 = some ⟨.processRxSync, 0, 16⟩ := by
  have hcall : rxCall syncAtAddress 0 4096 64 = some ⟨.processRxSync, 0, 16⟩ := by decide
  refine ⟨fun h => ?_, hcall⟩
  have hheader : HeaderAt syncAtAddress 4096 14 := .untagged (by decide) (by decide)
  exact absurd (hcall.symm.trans (h 14 hheader)) (by decide)

end Gptp
