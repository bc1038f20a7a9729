/-
Attribute types, stream information and first values of `vtss_msrp.c`.

An `unsigned` is a `UInt32`; the C type `char` keeps its octet, and what it is worth
as an `int` depends on whether the target's plain `char` is signed, which is a
parameter (`charVal`).  A pointer to octets is the function from offsets to octets
that it gives access to (`at_`).
-/
import AvbSwitch.MrpTables
import AvbSwitch.Octets

namespace Msrp

open Octets

/-- `mrp_attribute_type`. -/
inductive AttributeType
  | talkerAdvertise | talkerFailed | listener | domainVector
  deriving DecidableEq, Repr

namespace AttributeType

/-- The value of the enumerator. -/
def index (t : AttributeType) : ℕ := t.ctorIdx

/-- A Talker type. -/
def IsTalker (t : AttributeType) : Prop := t = .talkerAdvertise ∨ t = .talkerFailed

instance (t : AttributeType) : Decidable t.IsTalker :=
  inferInstanceAs (Decidable (t = .talkerAdvertise ∨ t = .talkerFailed))

/-- A type whose attributes are those of a stream. -/
def IsStream (t : AttributeType) : Prop := t ≠ .domainVector

instance (t : AttributeType) : Decidable t.IsStream :=
  inferInstanceAs (Decidable (t ≠ .domainVector))

end AttributeType

/-- `enum mrp_attr_event`, the events as they are encoded in a PDU. -/
inductive AttrEvent
  | new | joinIn | «in» | joinMt | mt | lv
  deriving DecidableEq, Repr

/-- The value of the enumerator. -/
def AttrEvent.index (e : AttrEvent) : ℕ := e.ctorIdx

theorem AttrEvent.index_lt (e : AttrEvent) : e.index < 6 := by
  cases e <;> decide

/-- `first_value_lengths`, the sizes of the four first value structures. -/
def firstValueLengths : AttributeType → ℕ
  | .talkerAdvertise => 25
  | .talkerFailed => 34
  | .listener => 8
  | .domainVector => 4

/-- `encode_attr_type`. -/
def encodeAttrType : AttributeType → ℕ
  | .talkerAdvertise => 1
  | .talkerFailed => 2
  | .listener => 3
  | .domainVector => 4

/-- `decode_attr_type`; `none` stands for the answer -1. -/
def decodeAttrType : ℕ → Option AttributeType
  | 1 => some .talkerAdvertise
  | 2 => some .talkerFailed
  | 3 => some .listener
  | 4 => some .domainVector
  | _ => none

theorem decodeAttrType_encodeAttrType (t : AttributeType) :
    decodeAttrType (encodeAttrType t) = some t := by
  cases t <;> rfl

/-- `has_fourpacked_events`. -/
def hasFourpackedEvents (t : AttributeType) : Bool := t = .listener

/-- `struct stream_info`. -/
structure StreamInfo where
  /-- `id[0]` -/
  id0 : UInt32
  /-- `id[1]` -/
  id1 : UInt32
  vlan : UInt32
  addr : Vector UInt8 6
  maxframesize : UInt32
  maxintframes : UInt32
  tspec : UInt8
  accumulatedLatency : UInt32
  failedBridgeId : Vector UInt8 8
  failureCode : UInt8
  used : Bool
  deriving DecidableEq, Repr

/-- An entry of static storage before it is first written. -/
def StreamInfo.zero : StreamInfo :=
  ⟨0, 0, 0, Vector.replicate 6 0, 0, 0, 0, 0, Vector.replicate 8 0, 0, false⟩

/-- The stream's identifier. -/
def StreamInfo.streamID (i : StreamInfo) : UInt32 × UInt32 := (i.id0, i.id1)

/-! ### Octets and words -/

/-- The `int` that a plain `char` is promoted to. -/
def charVal (signed : Bool) (x : UInt8) : ℤ :=
  if signed ∧ 128 ≤ x.toNat then (x.toNat : ℤ) - 256 else x.toNat

/-- The octets that a pointer to address `a` reaches. -/
def at_ (m : Mem) (a : ℕ) : ℕ → UInt8 := fun i => m (a + i)

/-- The loops `w = (w << 8) + v[i]`: a word from four values, the first one highest. -/
def shiftIn (v0 v1 v2 v3 : UInt32) : UInt32 :=
  [v0, v1, v2, v3].foldl (fun w v => (w <<< 8) + v) 0

/-- An octet as an `unsigned`. -/
def octetWord (x : UInt8) : UInt32 := UInt32.ofNat x.toNat

/-- A plain `char` as an `unsigned`. -/
def charWord (signed : Bool) (x : UInt8) : UInt32 := UInt32.ofInt (charVal signed x)

theorem shiftLeft_eight (w : UInt32) : (w <<< 8).toNat = w.toNat * 256 % 4294967296 := by
  rw [UInt32.toNat_shiftLeft]
  simp [Nat.shiftLeft_eq]

/-- The word that the shift loops assemble, as a number. -/
theorem shiftIn_toNat (v0 v1 v2 v3 : UInt32) :
    (shiftIn v0 v1 v2 v3).toNat =
      (v0.toNat * 16777216 + v1.toNat * 65536 + v2.toNat * 256 + v3.toNat) % 4294967296 := by
  simp only [shiftIn, List.foldl_cons, List.foldl_nil, UInt32.toNat_add, shiftLeft_eight]
  simp
  omega

theorem toNat_ofInt (x : ℤ) : (UInt32.ofInt x).toNat = (x % 4294967296).toNat := by
  rw [UInt32.ofInt, UInt32.toNat_ofNat']
  omega

theorem octetWord_toNat (x : UInt8) : (octetWord x).toNat = x.toNat := by
  have hx : x.toNat < 256 := x.toNat_lt
  rw [octetWord, UInt32.toNat_ofNat']
  omega

end Msrp
