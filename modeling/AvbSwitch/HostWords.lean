/-
The octets of a word in the memory of the host.

The program writes and reads the words of a timestamp octet by octet through pointers.  Both
orders of the octets are covered: `octetPlace` says which bits an octet is.

* `octetOf_setOctet` — writing one octet changes that octet, and no other;
* `eq_of_octetOf` — a word is its four octets;
* `getTimestamp_of_holds` — what was stored from a timestamp is read back from it.
-/
import AvbSwitch.PtpArithmetic

open Octets

namespace Gptp

variable {bigEndian : Bool} {w w' : UInt32} {x x0 x1 x2 x3 : UInt8} {j k i a : ℕ} {m : Mem}
  {ts ts' : PtpTime}

/-! ### The bits of an octet -/

/-- Where octet `k` of a word begins. -/
def octetPlace (bigEndian : Bool) (k : ℕ) : ℕ := if bigEndian then 24 - 8 * k else 8 * k

theorem octetPlace_le (hk : k < 4) : octetPlace bigEndian k + 8 ≤ 32 := by
  rw [octetPlace]
  split <;> omega

/-- Two octets do not overlap. -/
theorem octetPlace_disjoint (hj : j < 4) (hk : k < 4) (hne : j ≠ k) :
    octetPlace bigEndian j + 8 ≤ octetPlace bigEndian k ∨
      octetPlace bigEndian k + 8 ≤ octetPlace bigEndian j := by
  rw [octetPlace, octetPlace]
  split <;> omega

/-- Every bit belongs to an octet. -/
theorem exists_octetPlace (hi : i < 32) : ∃ k < 4, ∃ b < 8, i = octetPlace bigEndian k + b := by
  cases bigEndian
  · refine ⟨i / 8, by omega, i % 8, by omega, ?_⟩
    show i = 8 * (i / 8) + i % 8
    omega
  · refine ⟨3 - i / 8, by omega, i % 8, by omega, ?_⟩
    show i = 24 - 8 * (3 - i / 8) + i % 8
    omega

theorem octetShift_mod (hk : k < 4) :
    ((octetShift bigEndian k).toBitVec % 32).toNat = octetPlace bigEndian k := by
  have hle := @octetPlace_le bigEndian k hk
  rw [BitVec.toNat_umod, UInt32.toNat_toBitVec, octetShift, UInt32.toNat_ofNat']
  show octetPlace bigEndian k % 2 ^ 32 % 32 = _
  omega

theorem mask_bit : (255#32).getLsbD i = decide (i < 8) := by
  rw [show (255#32) = (BitVec.allOnes 8).setWidth 32 from rfl, BitVec.getLsbD_setWidth,
    BitVec.getLsbD_allOnes]
  by_cases h : i < 8
  · rw [decide_eq_true h, decide_eq_true (by omega : i < 32), Bool.true_and]
  · rw [decide_eq_false h, Bool.and_false]

theorem octetOf_bit (hk : k < 4) (hi : i < 8) :
    (octetOf bigEndian w k).toBitVec.getLsbD i =
      w.toBitVec.getLsbD (octetPlace bigEndian k + i) := by
  rw [octetOf, UInt32.toBitVec_toUInt8, BitVec.getLsbD_setWidth, decide_eq_true hi, Bool.true_and,
    UInt32.toBitVec_shiftRight, BitVec.ushiftRight_eq', octetShift_mod hk, BitVec.getLsbD_ushiftRight]

theorem setOctet_bit (hk : k < 4) (hi : i < 32) :
    (setOctet bigEndian w k x).toBitVec.getLsbD i =
      if octetPlace bigEndian k ≤ i ∧ i < octetPlace bigEndian k + 8 then
        x.toBitVec.getLsbD (i - octetPlace bigEndian k)
      else w.toBitVec.getLsbD i := by
  have hmask : (0xFF <<< octetShift bigEndian k : UInt32).toBitVec.getLsbD i =
      decide (octetPlace bigEndian k ≤ i ∧ i < octetPlace bigEndian k + 8) := by
    rw [UInt32.toBitVec_shiftLeft, BitVec.shiftLeft_eq', octetShift_mod hk, BitVec.getLsbD_shiftLeft]
    show (decide (i < 32) && !decide (i < octetPlace bigEndian k) && (255#32).getLsbD _) = _
    rw [mask_bit, Bool.eq_iff_iff]
    simp only [Bool.and_eq_true, decide_eq_true_eq, Bool.not_eq_true', decide_eq_false_iff_not]
    omega
  have hvalue : (x.toUInt32 <<< octetShift bigEndian k).toBitVec.getLsbD i =
      (decide (octetPlace bigEndian k ≤ i) && x.toBitVec.getLsbD (i - octetPlace bigEndian k)) := by
    rw [UInt32.toBitVec_shiftLeft, BitVec.shiftLeft_eq', octetShift_mod hk,
      BitVec.getLsbD_shiftLeft, UInt8.toBitVec_toUInt32, BitVec.getLsbD_setWidth,
      decide_eq_true hi, decide_eq_true (by omega : i - octetPlace bigEndian k < 32), Bool.true_and,
      Bool.true_and, ← decide_not, decide_eq_decide.mpr Nat.not_lt]
  rw [setOctet, UInt32.toBitVec_or, BitVec.getLsbD_or, UInt32.toBitVec_and, BitVec.getLsbD_and,
    UInt32.toBitVec_not, BitVec.getLsbD_not, hmask, hvalue, decide_eq_true hi, Bool.true_and]
  by_cases hin : octetPlace bigEndian k ≤ i ∧ i < octetPlace bigEndian k + 8
  · rw [if_pos hin, decide_eq_true hin, decide_eq_true hin.1, Bool.not_true, Bool.and_false,
      Bool.false_or, Bool.true_and]
  · rw [if_neg hin, decide_eq_false hin, Bool.not_false, Bool.and_true]
    -- above the octet there is nothing to be written
    have hnone : (decide (octetPlace bigEndian k ≤ i) &&
        x.toBitVec.getLsbD (i - octetPlace bigEndian k)) = false := by
      by_cases hle : octetPlace bigEndian k ≤ i
      · rw [BitVec.getLsbD_of_ge _ _ (by omega), Bool.and_false]
      · rw [decide_eq_false hle, Bool.false_and]
    rw [hnone, Bool.or_false]

/-! ### Words and their octets -/

/-- **Writing an octet** changes that octet only. -/
theorem octetOf_setOctet (hj : j < 4) (hk : k < 4) :
    octetOf bigEndian (setOctet bigEndian w k x) j =
      if j = k then x else octetOf bigEndian w j := by
  refine UInt8.toBitVec_inj.mp (BitVec.eq_of_getLsbD_eq fun i hi => ?_)
  have hle := @octetPlace_le bigEndian j hj
  rw [octetOf_bit hj hi, setOctet_bit hk (by omega)]
  by_cases hjk : j = k
  · subst hjk
    rw [if_pos (by omega), if_pos rfl, Nat.add_sub_cancel_left]
  · have hdisjoint := @octetPlace_disjoint bigEndian j k hj hk hjk
    rw [if_neg (by omega), if_neg hjk, octetOf_bit hj hi]

/-- **A word is its four octets.** -/
theorem eq_of_octetOf (h : ∀ k < 4, octetOf bigEndian w k = octetOf bigEndian w' k) : w = w' := by
  refine UInt32.toBitVec_inj.mp (BitVec.eq_of_getLsbD_eq fun i hi => ?_)
  obtain ⟨k, hk, b, hb, rfl⟩ := @exists_octetPlace bigEndian i hi
  rw [← octetOf_bit hk hb, ← octetOf_bit hk hb, h k hk]

theorem octetOf_wordOf (hj : j < 4) :
    octetOf bigEndian (wordOf bigEndian x0 x1 x2 x3) j =
      if j = 3 then x3 else if j = 2 then x2 else if j = 1 then x1 else x0 := by
  rw [wordOf, octetOf_setOctet hj (by omega), octetOf_setOctet hj (by omega),
    octetOf_setOctet hj (by omega), octetOf_setOctet hj (by omega)]
  split_ifs <;> first | rfl | omega

theorem wordOf_octetOf :
    wordOf bigEndian (octetOf bigEndian w 0) (octetOf bigEndian w 1) (octetOf bigEndian w 2)
      (octetOf bigEndian w 3) = w := by
  refine @eq_of_octetOf bigEndian _ _ fun k hk => ?_
  rw [octetOf_wordOf hk]
  split_ifs with h3 h2 h1
  · rw [h3]
  · rw [h2]
  · rw [h1]
  · rw [show k = 0 by omega]

/-- Two words made of octets are the same if the octets are. -/
theorem wordOf_inj {y0 y1 y2 y3 : UInt8} :
    wordOf bigEndian x0 x1 x2 x3 = wordOf bigEndian y0 y1 y2 y3 ↔
      x0 = y0 ∧ x1 = y1 ∧ x2 = y2 ∧ x3 = y3 := by
  constructor
  · intro h
    have hoctet : ∀ k < 4, octetOf bigEndian (wordOf bigEndian x0 x1 x2 x3) k =
        octetOf bigEndian (wordOf bigEndian y0 y1 y2 y3) k := fun k _ => by rw [h]
    have h0 := hoctet 0 (by omega)
    have h1 := hoctet 1 (by omega)
    have h2 := hoctet 2 (by omega)
    have h3 := hoctet 3 (by omega)
    rw [octetOf_wordOf (by omega), octetOf_wordOf (by omega)] at h0 h1 h2 h3
    exact ⟨h0, h1, h2, h3⟩
  · rintro ⟨rfl, rfl, rfl, rfl⟩
    rfl

/-! ### Timestamps in a frame -/

/-- **What was stored from a timestamp is read back**, but for the first two octets of the upper
seconds, which are not stored. -/
theorem getTimestamp_of_holds (h : Holds m a (putTimestamp bigEndian ts)) :
    getTimestamp bigEndian m a ts' =
      { ts with
        secondsUpper := setUpper bigEndian ts'.secondsUpper
          (octetOf bigEndian ts.secondsUpper.toUInt32 2)
          (octetOf bigEndian ts.secondsUpper.toUInt32 3) } := by
  obtain ⟨h0, h1, h2, h3, h4, h5, h6, h7, h8, h9, -⟩ := h
  rw [getTimestamp, h0, h1, h2, h3, h4, h5, h6, h7, h8, h9, wordOf_octetOf, wordOf_octetOf,
    Int32.toInt32_toUInt32]

end Gptp
