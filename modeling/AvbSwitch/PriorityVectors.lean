/-
Priority vectors of 802.1AS.

All fields are stored big-endian, so that `memcmp` over the 28 octets compares
the vectors as unsigned numbers (`PtpPriorityVector` in vtss_gptp_private.h).
`bmca_comparison` is that comparison, as `bmcaComparison_eq_replace_iff` says.
-/
import Mathlib.Tactic
import AvbSwitch.OctetOrder

open OctetOrder

namespace Gptp

/-! ### The fields -/

/-- A field of two octets. -/
structure Short where
  hi : UInt8
  lo : UInt8
  deriving DecidableEq, Repr

/-- `VTSS_COMMON_UNALIGNED_GET_2B`. -/
def Short.get (s : Short) : ℕ := s.hi.toNat * 256 + s.lo.toNat

/-- `VTSS_COMMON_UNALIGNED_PUT_2B`. -/
def Short.put (v : ℕ) : Short := ⟨UInt8.ofNat (v / 256), UInt8.ofNat v⟩

/-- `set_port_number`.  The first octet is cut from `setValue << 8`. -/
def setPortNumber (setValue : ℕ) : Short :=
  ⟨UInt8.ofNat (setValue % 65536 * 256), UInt8.ofNat (setValue % 65536)⟩

/-- `PtpClockIdentity`. -/
abbrev ClockIdentity := Vector UInt8 8

/-- The clock identity made from a MAC address. -/
def clockIdentityOf (mac : Vector UInt8 6) : ClockIdentity :=
  #v[mac[0], mac[1], mac[2], 0xFF, 0xFE, mac[3], mac[4], mac[5]]

/-- `PtpSystemIdentity`. -/
structure SystemIdentity where
  priority1 : UInt8
  clockClass : UInt8
  clockAccuracy : UInt8
  offsetScaledLogVariance : Short
  priority2 : UInt8
  clockIdentity : ClockIdentity
  deriving DecidableEq, Repr

/-- `PtpPortIdentity`. -/
structure PortIdentity where
  clockIdentity : ClockIdentity
  portNumber : Short
  deriving DecidableEq, Repr

/-- `PtpPriorityVector`. -/
structure PriorityVector where
  rootSystemIdentity : SystemIdentity
  stepsRemoved : Short
  /-- of the transmitting port -/
  sourcePortIdentity : PortIdentity
  /-- of the receiving port -/
  portNumber : Short
  deriving DecidableEq, Repr

/-- `memset` over a whole vector. -/
def PriorityVector.memset (c : UInt8) : PriorityVector where
  rootSystemIdentity :=
    { priority1 := c
      clockClass := c
      clockAccuracy := c
      offsetScaledLogVariance := ⟨c, c⟩
      priority2 := c
      clockIdentity := Vector.replicate 8 c }
  stepsRemoved := ⟨c, c⟩
  sourcePortIdentity := ⟨Vector.replicate 8 c, ⟨c, c⟩⟩
  portNumber := ⟨c, c⟩

/-! ### The octets in memory -/

def Short.octets (s : Short) : List UInt8 := [s.hi, s.lo]

def SystemIdentity.octets (s : SystemIdentity) : List UInt8 :=
  [s.priority1, s.clockClass, s.clockAccuracy] ++ s.offsetScaledLogVariance.octets ++
    [s.priority2] ++ s.clockIdentity.toList

def PortIdentity.octets (s : PortIdentity) : List UInt8 :=
  s.clockIdentity.toList ++ s.portNumber.octets

def PriorityVector.octets (v : PriorityVector) : List UInt8 :=
  v.rootSystemIdentity.octets ++ v.stepsRemoved.octets ++ v.sourcePortIdentity.octets ++
    v.portNumber.octets

theorem PriorityVector.octets_length (v : PriorityVector) : v.octets.length = 28 := by
  simp only [octets, SystemIdentity.octets, PortIdentity.octets, Short.octets, List.length_append,
    List.length_cons, List.length_nil, Vector.length_toList]

/-- The vector as a number of 224 bits. -/
def PriorityVector.value (v : PriorityVector) : ℕ := OctetOrder.value v.octets

theorem PriorityVector.memcmp_eq_compare (v w : PriorityVector) :
    memcmp v.octets w.octets = compare v.value w.value :=
  OctetOrder.memcmp_eq_compare (v.octets_length.trans w.octets_length.symm)

/-- The system identity as a number, in the order of `memcmp`. -/
def SystemIdentity.value (s : SystemIdentity) : ℕ := OctetOrder.value s.octets

theorem SystemIdentity.octets_length (s : SystemIdentity) : s.octets.length = 14 := by
  simp only [octets, Short.octets, List.length_append, List.length_cons, List.length_nil,
    Vector.length_toList]

theorem SystemIdentity.octets_injective {s s' : SystemIdentity} (h : s.octets = s'.octets) :
    s = s' := by
  obtain ⟨p1, class1, accuracy1, ⟨hi1, lo1⟩, p2, clock1⟩ := s
  obtain ⟨p1', class1', accuracy1', ⟨hi1', lo1'⟩, p2', clock1'⟩ := s'
  simp only [octets, Short.octets, List.cons_append, List.nil_append, List.cons.injEq,
    Vector.toList_inj] at h
  obtain ⟨rfl, rfl, rfl, rfl, rfl, rfl, rfl⟩ := h
  rfl

theorem PortIdentity.octets_injective {s s' : PortIdentity} (h : s.octets = s'.octets) :
    s = s' := by
  obtain ⟨clock, ⟨hi, lo⟩⟩ := s
  obtain ⟨clock', ⟨hi', lo'⟩⟩ := s'
  obtain ⟨hclock, hport⟩ :=
    List.append_inj h (clock.length_toList.trans clock'.length_toList.symm)
  simp only [Short.octets, List.cons.injEq, and_true] at hport
  obtain ⟨rfl, rfl⟩ := hport
  obtain rfl : clock = clock' := Vector.toList_inj.mp hclock
  rfl

/-- The octets of a vector determine it. -/
theorem PriorityVector.octets_injective {v w : PriorityVector} (h : v.octets = w.octets) :
    v = w := by
  obtain ⟨root, ⟨hi, lo⟩, source, ⟨hi1, lo1⟩⟩ := v
  obtain ⟨root', ⟨hi', lo'⟩, source', ⟨hi1', lo1'⟩⟩ := w
  have hsource : source.octets.length = source'.octets.length := by
    simp only [PortIdentity.octets, Short.octets, List.length_append, Vector.length_toList,
      List.length_cons, List.length_nil]
  simp only [octets, List.append_assoc] at h
  obtain ⟨hroot, hrest⟩ := List.append_inj h (root.octets_length.trans root'.octets_length.symm)
  obtain ⟨hsteps, hrest⟩ := List.append_inj hrest rfl
  obtain ⟨hport, hnumber⟩ := List.append_inj hrest hsource
  simp only [Short.octets, List.cons.injEq, and_true] at hsteps hnumber
  obtain ⟨rfl, rfl⟩ := hsteps
  obtain ⟨rfl, rfl⟩ := hnumber
  obtain rfl := SystemIdentity.octets_injective hroot
  obtain rfl := PortIdentity.octets_injective hport
  rfl

/-! ### Comparisons -/

/-- `BmcaResult`. -/
inductive BmcaResult
  | isPresentMaster
  | retainPresentMaster
  | replacePresentMaster
  deriving DecidableEq, Repr

/-- `bmca_comparison`. -/
def bmcaComparison (presentMaster challenger : PriorityVector) : BmcaResult :=
  match memcmp presentMaster.octets challenger.octets with
  | .gt => .replacePresentMaster
  | .eq => .isPresentMaster
  | .lt => .retainPresentMaster

/-- `compare_clock_identity`: negative, zero or positive. -/
def compareClockIdentity (clockIdentityA clockIdentityB : ClockIdentity) : Ordering :=
  memcmp clockIdentityA.toList clockIdentityB.toList

variable {v w : PriorityVector} {a b : ClockIdentity}

theorem bmcaComparison_eq_replace_iff :
    bmcaComparison v w = .replacePresentMaster ↔ w.value < v.value := by
  rw [bmcaComparison, PriorityVector.memcmp_eq_compare, ← compare_gt_iff_gt]
  cases compare v.value w.value <;> simp

/-- `memcmp` tells whether two vectors have the same contents. -/
theorem PriorityVector.memcmp_eq_iff : memcmp v.octets w.octets = .eq ↔ v = w := by
  rw [OctetOrder.memcmp_eq_iff (v.octets_length.trans w.octets_length.symm)]
  exact ⟨PriorityVector.octets_injective, congrArg _⟩

theorem bmcaComparison_eq_present_iff : bmcaComparison v w = .isPresentMaster ↔ v = w := by
  rw [bmcaComparison, ← PriorityVector.memcmp_eq_iff]
  cases memcmp v.octets w.octets <;> simp

theorem PriorityVector.value_injective : Function.Injective PriorityVector.value := by
  intro v w h
  exact PriorityVector.octets_injective
    (OctetOrder.value_injective (v.octets_length.trans w.octets_length.symm) h)

/-- The vectors are ordered as `memcmp` orders them. -/
instance PriorityVector.instLinearOrder : LinearOrder PriorityVector :=
  LinearOrder.lift' PriorityVector.value PriorityVector.value_injective

theorem PriorityVector.lt_iff : v < w ↔ v.value < w.value := Iff.rfl

/-- This is the lexicographic order of the octets. -/
theorem PriorityVector.octets_le_iff : v.octets ≤ w.octets ↔ v ≤ w := by
  have hlen : w.octets.length = v.octets.length := w.octets_length.trans v.octets_length.symm
  rw [← not_lt, PriorityVector.lt_iff, PriorityVector.value, PriorityVector.value,
    OctetOrder.value_lt_iff_lex hlen]
  exact List.not_lt.symm

/-- The root comes first in a vector. -/
theorem root_value_le_of_value_lt (h : v.value < w.value) :
    v.rootSystemIdentity.value ≤ w.rootSystemIdentity.value := by
  have hrest : ∀ u : PriorityVector, u.octets = u.rootSystemIdentity.octets ++
      (u.stepsRemoved.octets ++ u.sourcePortIdentity.octets ++ u.portNumber.octets) := fun u => by
    simp only [PriorityVector.octets, List.append_assoc]
  rw [PriorityVector.value, PriorityVector.value, hrest, hrest] at h
  refine OctetOrder.le_of_value_append_lt ?_ h
  simp only [List.length_append, PortIdentity.octets, Short.octets, Vector.length_toList,
    List.length_cons, List.length_nil]

theorem compareClockIdentity_eq_iff : compareClockIdentity a b = .eq ↔ a = b := by
  have hlen : a.toList.length = b.toList.length :=
    a.length_toList.trans b.length_toList.symm
  rw [compareClockIdentity, memcmp_eq_iff hlen, Vector.toList_inj]

/-- A vector that starts with a whole system identity of ones comes after every
vector of a clock class below 255. -/
theorem value_lt_of_root_ones (hv : v.rootSystemIdentity.clockClass < 255)
    (hp : w.rootSystemIdentity.priority1 = 255) (hc : w.rootSystemIdentity.clockClass = 255) :
    v.value < w.value := by
  rw [← compare_lt_iff_lt, ← PriorityVector.memcmp_eq_compare]
  simp only [PriorityVector.octets, SystemIdentity.octets, List.cons_append, hp, hc, memcmp, if_pos hv]
  split_ifs with h1 h2
  · rfl
  · exact absurd (UInt8.lt_iff_toNat_lt.mp h2) (Nat.not_lt.mpr (Nat.le_of_lt_succ (UInt8.toNat_lt _)))
  · rfl

end Gptp
