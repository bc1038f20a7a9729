/-
What timestamps stand for, and what their difference is.

The seconds of a timestamp are a signed number of two words, and the nanoseconds may have a sign
as well.  `normalize_timestamp` sees to it that the two signs agree; then the seconds are what
is left of the time if the fraction of a second is cut off.

* `timestampDifference_spec` — a difference is exact, and its signs agree;
* `PtpTime.Canonical.fields` — so that its fields are known from its value.
-/
import AvbSwitch.PtpArithmetic

namespace Gptp

variable {a b t : PtpTime} {x y : Int32}

/-- The seconds of a timestamp. -/
def PtpTime.seconds (t : PtpTime) : ℤ := t.secondsUpper.toInt * 2 ^ 32 + t.secondsLower.toNat

/-- A timestamp in nanoseconds. -/
def PtpTime.value (t : PtpTime) : ℤ := t.seconds * 10 ^ 9 + t.nanoseconds.toInt

/-- There is less than a second of nanoseconds. -/
def PtpTime.Fraction (t : PtpTime) : Prop :=
  -10 ^ 9 < t.nanoseconds.toInt ∧ t.nanoseconds.toInt < 10 ^ 9

/-- The signs of the seconds and the nanoseconds agree. -/
structure PtpTime.Canonical (t : PtpTime) : Prop where
  fraction : t.Fraction
  of_pos : 0 < t.seconds → 0 ≤ t.nanoseconds.toInt
  of_neg : t.seconds < 0 → t.nanoseconds.toInt ≤ 0

/-! ### Words -/

theorem toInt_add_eq (h : -2 ^ 31 ≤ x.toInt + y.toInt) (h' : x.toInt + y.toInt < 2 ^ 31) :
    (x + y).toInt = x.toInt + y.toInt := by
  rw [Int32.toInt_add]
  exact Int.bmod_eq_of_le_mul_two (by omega) (by omega)

theorem toInt_sub_eq (h : -2 ^ 31 ≤ x.toInt - y.toInt) (h' : x.toInt - y.toInt < 2 ^ 31) :
    (x - y).toInt = x.toInt - y.toInt := by
  rw [Int32.toInt_sub]
  exact Int.bmod_eq_of_le_mul_two (by omega) (by omega)

/-- Half of the words are negative. -/
theorem toInt32_toInt {v : UInt32} :
    v.toInt32.toInt = if v.toNat < 2 ^ 31 then (v.toNat : ℤ) else v.toNat - 2 ^ 32 := by
  have hcond := BitVec.toInt_eq_toNat_cond v.toBitVec
  show v.toBitVec.toInt = if v.toBitVec.toNat < 2 ^ 31 then _ else _
  rw [hcond]
  show _ = if v.toBitVec.toNat < 2 ^ 31 then (v.toBitVec.toNat : ℤ) else v.toBitVec.toNat - 2 ^ 32
  split <;> split <;> omega

theorem toInt_one : (1 : Int32).toInt = 1 := by decide

theorem oneBillion_toInt : oneBillion.toInt = 10 ^ 9 := by decide

theorem neg_oneBillion_toInt : (-oneBillion).toInt = -10 ^ 9 := by decide

theorem seconds_neg_iff : t.seconds < 0 ↔ t.secondsUpper < 0 := by
  have hlower := t.secondsLower.toNat_lt
  rw [PtpTime.seconds, Int32.lt_iff_toInt_lt]
  show _ ↔ t.secondsUpper.toInt < 0
  omega

theorem seconds_pos_iff (h : ¬ t.secondsUpper < 0) :
    0 < t.seconds ↔ 0 < t.secondsUpper ∨ 0 < t.secondsLower := by
  rw [Int32.lt_iff_toInt_lt] at h
  have h : ¬ t.secondsUpper.toInt < 0 := h
  rw [PtpTime.seconds, Int32.lt_iff_toInt_lt, UInt32.lt_iff_toNat_lt]
  show _ ↔ 0 < t.secondsUpper.toInt ∨ 0 < t.secondsLower.toNat
  omega

/-- One second more. -/
theorem seconds_succ (h : t.seconds < 2 ^ 63 - 1) :
    PtpTime.seconds ⟨t.secondsUpper + if t.secondsLower = 0xFFFFFFFF then 1 else 0,
      t.secondsLower + 1, x⟩ = t.seconds + 1 := by
  have hupper := t.secondsUpper.le_toInt
  have hlower := t.secondsLower.toNat_lt
  rw [PtpTime.seconds] at h
  rw [PtpTime.seconds, PtpTime.seconds, UInt32.toNat_add, UInt32.toNat_one]
  by_cases hlast : t.secondsLower = 0xFFFFFFFF
  · have hlast' : t.secondsLower.toNat = 2 ^ 32 - 1 := by
      rw [hlast]
      rfl
    rw [if_pos hlast, toInt_add_eq (by rw [toInt_one]; omega) (by rw [toInt_one]; omega), toInt_one]
    omega
  · have hlast' : t.secondsLower.toNat ≠ 2 ^ 32 - 1 := fun heq => hlast (UInt32.toNat.inj heq)
    rw [if_neg hlast, Int32.add_zero]
    dsimp only
    omega

/-- One second less. -/
theorem seconds_pred (h : -2 ^ 63 < t.seconds) :
    PtpTime.seconds ⟨t.secondsUpper - if t.secondsLower = 0 then 1 else 0,
      t.secondsLower - 1, x⟩ = t.seconds - 1 := by
  have hupper := t.secondsUpper.toInt_lt
  have hlower := t.secondsLower.toNat_lt
  rw [PtpTime.seconds] at h
  rw [PtpTime.seconds, PtpTime.seconds, UInt32.toNat_sub, UInt32.toNat_one]
  by_cases hfirst : t.secondsLower = 0
  · have hfirst' : t.secondsLower.toNat = 0 := by
      rw [hfirst]
      rfl
    rw [if_pos hfirst, toInt_sub_eq (by rw [toInt_one]; omega) (by rw [toInt_one]; omega), toInt_one]
    omega
  · have hfirst' : t.secondsLower.toNat ≠ 0 := fun heq => hfirst (UInt32.toNat.inj heq)
    rw [if_neg hfirst, Int32.sub_zero]
    dsimp only
    omega

/-! ### Differences -/

/-- A carry leaves less than a second of nanoseconds, if there were less than two. -/
theorem carryNanoseconds_spec (hns : -2 * 10 ^ 9 < t.nanoseconds.toInt)
    (hns' : t.nanoseconds.toInt < 2 * 10 ^ 9) (hs : -2 ^ 63 < t.seconds)
    (hs' : t.seconds < 2 ^ 63 - 1) :
    (carryNanoseconds t).value = t.value ∧ (carryNanoseconds t).Fraction := by
  rw [carryNanoseconds]
  split
  case isTrue hover =>
    rw [Int32.le_iff_toInt_le, oneBillion_toInt] at hover
    have hrest : (t.nanoseconds - oneBillion).toInt = t.nanoseconds.toInt - 10 ^ 9 := by
      rw [toInt_sub_eq, oneBillion_toInt] <;> rw [oneBillion_toInt] <;> omega
    rw [PtpTime.value, seconds_succ hs', PtpTime.Fraction, hrest, PtpTime.value]
    omega
  case isFalse hover =>
    rw [Int32.le_iff_toInt_le, oneBillion_toInt] at hover
    split
    case isTrue hunder =>
      rw [Int32.le_iff_toInt_le, neg_oneBillion_toInt] at hunder
      have hrest : (t.nanoseconds + oneBillion).toInt = t.nanoseconds.toInt + 10 ^ 9 := by
        rw [toInt_add_eq, oneBillion_toInt] <;> rw [oneBillion_toInt] <;> omega
      rw [PtpTime.value, seconds_pred hs, PtpTime.Fraction, hrest, PtpTime.value]
      omega
    case isFalse hunder =>
      rw [Int32.le_iff_toInt_le, neg_oneBillion_toInt] at hunder
      rw [PtpTime.Fraction]
      omega

/-- Nothing is carried if there is less than a second of nanoseconds. -/
theorem carryNanoseconds_eq (h : t.Fraction) : carryNanoseconds t = t := by
  obtain ⟨hns, hns'⟩ := h
  have hover : ¬ oneBillion ≤ t.nanoseconds := by
    rw [Int32.le_iff_toInt_le, oneBillion_toInt]
    omega
  have hunder : ¬ t.nanoseconds ≤ -oneBillion := by
    rw [Int32.le_iff_toInt_le, neg_oneBillion_toInt]
    omega
  rw [carryNanoseconds, if_neg hover, if_neg hunder]

/-- `normalize_timestamp` makes the signs agree. -/
theorem normalizeTimestamp_spec (h : t.Fraction) :
    (normalizeTimestamp t).value = t.value ∧ (normalizeTimestamp t).Canonical := by
  obtain ⟨hns, hns'⟩ := h
  rw [normalizeTimestamp]
  by_cases hupper : t.secondsUpper < 0
  · have hneg := seconds_neg_iff.mpr hupper
    rw [if_pos hupper]
    split
    case isTrue hpos =>
      have hpos : 0 < t.nanoseconds.toInt := Int32.lt_iff_toInt_lt.mp hpos
      have hrest : (t.nanoseconds - oneBillion).toInt = t.nanoseconds.toInt - 10 ^ 9 := by
        rw [toInt_sub_eq, oneBillion_toInt] <;> rw [oneBillion_toInt] <;> omega
      refine ⟨?_, ⟨?_, ?_⟩, ?_, ?_⟩
      all_goals
        simp only [PtpTime.value, seconds_succ (lt_trans hneg (by decide)), hrest]
        omega
    case isFalse hpos =>
      have hpos : ¬ 0 < t.nanoseconds.toInt := fun h => hpos (Int32.lt_iff_toInt_lt.mpr h)
      exact ⟨rfl, ⟨hns, hns'⟩, fun h => by omega, fun _ => by omega⟩
  · have hneg := mt seconds_neg_iff.mp hupper
    rw [if_neg hupper]
    split
    case isTrue hpos =>
      have hseconds := (seconds_pos_iff hupper).mpr hpos
      split
      case isTrue hminus =>
        have hminus : t.nanoseconds.toInt < 0 := Int32.lt_iff_toInt_lt.mp hminus
        have hrest : (t.nanoseconds + oneBillion).toInt = t.nanoseconds.toInt + 10 ^ 9 := by
          rw [toInt_add_eq, oneBillion_toInt] <;> rw [oneBillion_toInt] <;> omega
        refine ⟨?_, ⟨?_, ?_⟩, ?_, ?_⟩
        all_goals
          simp only [PtpTime.value, seconds_pred (lt_trans (by decide) hseconds), hrest]
          omega
      case isFalse hminus =>
        have hminus : ¬ t.nanoseconds.toInt < 0 := fun h => hminus (Int32.lt_iff_toInt_lt.mpr h)
        exact ⟨rfl, ⟨hns, hns'⟩, fun _ => by omega, fun h => by omega⟩
    case isFalse hpos =>
      have hseconds := mt (seconds_pos_iff hupper).mp hpos
      exact ⟨rfl, ⟨hns, hns'⟩, fun h => absurd h hseconds, fun h => absurd h hneg⟩

/-- What both do to a timestamp with less than two seconds of nanoseconds. -/
theorem normalizeTimestamp_carryNanoseconds {v : ℤ} (hvalue : t.value = v)
    (hns : -2 * 10 ^ 9 < t.nanoseconds.toInt) (hns' : t.nanoseconds.toInt < 2 * 10 ^ 9)
    (hs : -2 ^ 63 < t.seconds) (hs' : t.seconds < 2 ^ 63 - 1) :
    (normalizeTimestamp (carryNanoseconds t)).value = v ∧
      (normalizeTimestamp (carryNanoseconds t)).Canonical := by
  obtain ⟨hcarried, hfraction⟩ := carryNanoseconds_spec hns hns' hs hs'
  obtain ⟨hnormal, hcanonical⟩ := normalizeTimestamp_spec hfraction
  exact ⟨hnormal.trans (hcarried.trans hvalue), hcanonical⟩

/-- The seconds of a difference, before a carry, if the upper words have room. -/
theorem seconds_sub (h : -2 ^ 31 < a.secondsUpper.toInt - b.secondsUpper.toInt)
    (h' : a.secondsUpper.toInt - b.secondsUpper.toInt < 2 ^ 31) :
    PtpTime.seconds ⟨a.secondsUpper - b.secondsUpper -
        (if a.secondsLower < b.secondsLower then 1 else 0), a.secondsLower - b.secondsLower, x⟩ =
      a.seconds - b.seconds := by
  have hlower := a.secondsLower.toNat_lt
  have hlower' := b.secondsLower.toNat_lt
  have hupper : (a.secondsUpper - b.secondsUpper).toInt =
      a.secondsUpper.toInt - b.secondsUpper.toInt := toInt_sub_eq (by omega) (by omega)
  rw [PtpTime.seconds, PtpTime.seconds, PtpTime.seconds, UInt32.toNat_sub]
  by_cases hborrow : a.secondsLower < b.secondsLower
  · have hborrow' := UInt32.lt_iff_toNat_lt.mp hborrow
    have hone : (a.secondsUpper - b.secondsUpper - 1).toInt =
        a.secondsUpper.toInt - b.secondsUpper.toInt - 1 := by
      rw [toInt_sub_eq, hupper, toInt_one] <;> rw [hupper, toInt_one] <;> omega
    rw [if_pos hborrow, hone]
    omega
  · have hborrow' := mt UInt32.lt_iff_toNat_lt.mpr hborrow
    rw [if_neg hborrow, Int32.sub_zero, hupper]
    omega

/-- **A difference of timestamps** is exact, and its signs agree. -/
theorem timestampDifference_spec (ha : a.Fraction) (hb : b.Fraction) (hsa : -2 ^ 62 < a.seconds)
    (hsa' : a.seconds < 2 ^ 62) (hsb : -2 ^ 62 < b.seconds) (hsb' : b.seconds < 2 ^ 62) :
    (timestampDifference a b).value = a.value - b.value ∧ (timestampDifference a b).Canonical := by
  obtain ⟨hna, hna'⟩ := ha
  obtain ⟨hnb, hnb'⟩ := hb
  have hns : (a.nanoseconds - b.nanoseconds).toInt = a.nanoseconds.toInt - b.nanoseconds.toInt :=
    toInt_sub_eq (by omega) (by omega)
  have hlower := a.secondsLower.toNat_lt
  have hlower' := b.secondsLower.toNat_lt
  have hupper : -2 ^ 31 < a.secondsUpper.toInt - b.secondsUpper.toInt ∧
      a.secondsUpper.toInt - b.secondsUpper.toInt < 2 ^ 31 := by
    rw [PtpTime.seconds] at hsa hsa' hsb hsb'
    omega
  have hseconds := @seconds_sub a b (a.nanoseconds - b.nanoseconds) hupper.1 hupper.2
  rw [timestampDifference]
  refine normalizeTimestamp_carryNanoseconds ?_ ?_ ?_ ?_ ?_
  · rw [PtpTime.value, hseconds, hns, PtpTime.value, PtpTime.value]
    ring
  · rw [hns]
    omega
  · rw [hns]
    omega
  · rw [hseconds]
    omega
  · rw [hseconds]
    omega

/-- The fields of a timestamp are known from its value. -/
theorem PtpTime.Canonical.fields (h : t.Canonical) :
    t.seconds = t.value.tdiv (10 ^ 9) ∧ t.nanoseconds.toInt = t.value.tmod (10 ^ 9) := by
  obtain ⟨⟨hns, hns'⟩, hpos, hneg⟩ := h
  have hvalue : t.value = t.seconds * 10 ^ 9 + t.nanoseconds.toInt := rfl
  have hsplit := Int.tmod_add_tdiv_mul t.value (10 ^ 9)
  have hseconds : t.seconds = t.value.tdiv (10 ^ 9) := by
    by_cases hsign : 0 ≤ t.value
    · rw [Int.tdiv_eq_ediv_of_nonneg hsign]
      omega
    · rw [← Int.neg_neg t.value, Int.neg_tdiv, Int.tdiv_eq_ediv_of_nonneg (by omega)]
      omega
  exact ⟨hseconds, by omega⟩

end Gptp
