/-
The two computations of the rate ratio, and what the ratio is that they store.

`computePdelayRateRatio` is that of the peer delay mechanism; `computeDelayRateRatio` computes the
same ratio from the timestamps of delay requests, with the same variables.  Both split a shift of 31
between the dividend and the divisor, and keep the low word of the quotient.

* `rateRatioShift_eq` — the shift brings the leading bit of the dividend to the top;
* `rateQuotient_toNat` — the ratio in numbers;
* `computePdelayRateRatio_sane_iff`, `computeDelayRateRatio_sane` — whether a ratio that the two
  functions store is sane.
-/
import Mathlib.Data.Nat.Bitwise
import AvbSwitch.EmulatedDivision
import AvbSwitch.PdelayMachine

namespace Gptp

variable {n : ℕ} {a r q : TdUint64} {w : UInt32} {k : ℕ}

/-! ### The computation for delay requests -/

/-- `RATE_RATIO_MAX`. -/
def rateRatioMax : UInt32 := 0x80100000

/-- `RATE_RATIO_MIN`. -/
def rateRatioMin : UInt32 := 0x7FF00000

/-- A port with the timestamps of the last delay request. -/
structure RatePort extends PdelayPort where
  delayReqTxLocalTimestamp : PtpTime
  delayReqRxTimestamp : PtpTime

/-- The ports, and the rate ratio from the master. -/
structure RateSystem (n : ℕ) where
  ports : Fin n → RatePort
  masterRateRatio : UInt32
  masterRateRatioValid : Bool

/-- Put a port in its place. -/
def RateSystem.setPort (t : RateSystem n) (p : Fin n) (pp : RatePort) : RateSystem n :=
  { t with ports := Function.update t.ports p pp }

/-- `computeDelayRateRatio`. -/
def computeDelayRateRatio (t : RateSystem n) (p : Fin n) : RateSystem n :=
  let pp := t.ports p
  if !pp.initPdelayRespReceived then
    t.setPort p { pp with
      initPdelayRespReceived := true
      pdelayRespTxTimestampI := pp.delayReqTxLocalTimestamp
      pdelayRespRxTimestampI := pp.delayReqRxTimestamp }
  else
    let difference2 := timestampDifference pp.delayReqTxLocalTimestamp pp.pdelayRespTxTimestampI
    let difference := timestampDifference pp.delayReqRxTimestamp pp.pdelayRespRxTimestampI
    -- what is thrown away is the initial pair; it is not replaced as long as the ratio is good
    let t' := t.setPort p { pp with
      initPdelayRespReceived := false
      neighborRateRatioValid := false }
    if (difference.secondsUpper.toUInt32 &&& 0x80000000) |||
        (difference2.secondsUpper.toUInt32 &&& 0x80000000) ≠ 0 then
      { t' with masterRateRatioValid := false }
    else
      let nsResponder := nanosecondsOf difference
      let nsRequester := nanosecondsOf difference2
      let shift := rateRatioShift nsResponder
      let nsTemp := uint64RShift nsRequester (UInt32.ofNat (31 - shift))
      if nsTemp ≠ .zero then
        let rateRatio :=
          (uint64DividedByUint64 (uint64LShift nsResponder (UInt32.ofNat shift)) nsTemp).lowPart
        if rateRatio < rateRatioMax ∧ rateRatioMin < rateRatio then
          { t.setPort p { pp with
              neighborRateRatio := rateRatio
              neighborRateRatioValid := true } with
            masterRateRatio := rateRatio
            masterRateRatioValid := true }
        else { t' with masterRateRatioValid := false }
      else t

/-! ### The ratio -/

/-- A bit of the dividend, as the loop for `shift` tests for it. -/
theorem and_shiftLeft_ne_zero_iff (hk : k < 32) :
    w &&& (1 <<< UInt32.ofNat k) ≠ 0 ↔ w.toNat.testBit k = true := by
  have hbit : (1 <<< UInt32.ofNat k : UInt32).toNat = 2 ^ k := by
    have hcount := ofNat_toNat_of_lt hk
    rw [shiftLeft_toNat (by omega), hcount]
    show 1 * 2 ^ k % 2 ^ 32 = 2 ^ k
    rw [Nat.one_mul, Nat.mod_eq_of_lt (Nat.pow_lt_pow_right Nat.one_lt_two hk)]
  rw [Ne, ← UInt32.toNat_inj, UInt32.toNat_and, hbit, Nat.and_two_pow, UInt32.toNat_zero]
  cases w.toNat.testBit k with
  | false => exact iff_of_false (fun h => h (Nat.zero_mul _)) Bool.false_ne_true
  | true => exact iff_of_true (Nat.mul_ne_zero Nat.one_ne_zero (Nat.two_pow_pos k).ne') rfl

/-- **The shift** brings the leading bit to the top, and is no more than 31. -/
theorem rateRatioShift_eq : rateRatioShift a = min 31 (63 - a.toNat.log2) := by
  have hhigh := a.highPart.toNat_lt
  rw [rateRatioShift]
  by_cases hlarge : 2 ≤ a.highPart.toNat
  · -- the leading bit is one of those that are tested
    have hne : a.highPart.toNat ≠ 0 := by omega
    have hpos : 1 ≤ a.highPart.toNat.log2 := (Nat.le_log2 hne).mpr hlarge
    have hlt : a.highPart.toNat.log2 < 32 := log2_lt (by omega) hhigh
    have hfind : (List.range 31).find? (fun shift =>
        a.highPart &&& (1 <<< UInt32.ofNat (31 - shift)) ≠ 0) =
        some (31 - a.highPart.toNat.log2) := by
      refine List.find?_range_eq_some.mpr ⟨?_, List.mem_range.mpr (by omega), fun j hj => ?_⟩
      · rw [decide_eq_true_iff, and_shiftLeft_ne_zero_iff (by omega), Nat.sub_sub_self (by omega)]
        exact Nat.testBit_log2 hne
      · have hclear : a.highPart.toNat.testBit (31 - j) = false :=
          Nat.testBit_lt_two_pow (lt_of_lt_of_le Nat.lt_log2_self
            (Nat.pow_le_pow_right Nat.two_pos (by omega)))
        rw [Bool.not_eq_true', decide_eq_false_iff_not, and_shiftLeft_ne_zero_iff (by omega), hclear]
        exact Bool.false_ne_true
    rw [hfind, Option.getD_some, toNat_log2 hne]
    omega
  · have hfind : (List.range 31).find? (fun shift =>
        a.highPart &&& (1 <<< UInt32.ofNat (31 - shift)) ≠ 0) = none := by
      refine List.find?_range_eq_none.mpr fun j hj => ?_
      have hclear : a.highPart.toNat.testBit (31 - j) = false :=
        Nat.testBit_lt_two_pow (lt_of_lt_of_le (Nat.lt_of_not_le hlarge)
          (Nat.le_self_pow (by omega) 2))
      rw [Bool.not_eq_true', decide_eq_false_iff_not, and_shiftLeft_ne_zero_iff (by omega), hclear]
      exact Bool.false_ne_true
    have hlog : a.toNat.log2 < 33 := by
      have hlow := a.lowPart.toNat_lt
      refine log2_lt (by omega) ?_
      rw [TdUint64.toNat, Limbs.value]
      omega
    rw [hfind, Option.getD_none]
    omega
/-- The shift, in numbers. -/
def ratioShift (r : ℕ) : ℕ := min 31 (63 - r.log2)

/-- The divisor. -/
def ratioDivisor (r q : ℕ) : ℕ := q / 2 ^ (31 - ratioShift r)

/-- The ratio that both functions compute, if the divisor is not zero. -/
def rateQuotient (nsResponder nsRequester : TdUint64) : Option UInt32 :=
  let shift := rateRatioShift nsResponder
  let divisor := uint64RShift nsRequester (UInt32.ofNat (31 - shift))
  if divisor ≠ .zero then
    some (uint64DividedByUint64 (uint64LShift nsResponder (UInt32.ofNat shift)) divisor).lowPart
  else none

theorem ratioShift_lt : ratioShift k < 32 := by
  rw [ratioShift]
  omega

/-- The shift to the left loses no bit. -/
theorem shifted_lt : a.toNat * 2 ^ ratioShift a.toNat < 2 ^ 64 := by
  have hlog : a.toNat.log2 < 64 := log2_lt (by omega) a.toNat_lt
  calc
    a.toNat * 2 ^ ratioShift a.toNat < 2 ^ (a.toNat.log2 + 1) * 2 ^ ratioShift a.toNat :=
      Nat.mul_lt_mul_of_pos_right Nat.lt_log2_self (Nat.two_pow_pos _)
    _ = 2 ^ (a.toNat.log2 + 1 + ratioShift a.toNat) := (pow_add ..).symm
    _ ≤ 2 ^ 64 := by
      refine Nat.pow_le_pow_right Nat.two_pos ?_
      rw [ratioShift]
      omega

theorem dividend_toNat :
    (uint64LShift a (UInt32.ofNat (rateRatioShift a))).toNat =
      a.toNat * 2 ^ ratioShift a.toNat := by
  have hshift : (UInt32.ofNat (rateRatioShift a)).toNat = ratioShift a.toNat := by
    rw [rateRatioShift_eq]
    exact ofNat_toNat_of_lt ratioShift_lt
  rw [uint64LShift_toNat (hshift.trans_lt ratioShift_lt), hshift, Nat.mod_eq_of_lt shifted_lt]

theorem divisor_toNat :
    (uint64RShift q (UInt32.ofNat (31 - rateRatioShift r))).toNat =
      ratioDivisor r.toNat q.toNat := by
  have hshift : (UInt32.ofNat (31 - rateRatioShift r)).toNat = 31 - ratioShift r.toNat := by
    rw [rateRatioShift_eq]
    exact ofNat_toNat_of_lt (by omega)
  rw [uint64RShift_toNat (by omega), hshift, ratioDivisor]

theorem toNat_eq_zero_iff : a.toNat = 0 ↔ a = .zero := by
  constructor
  · intro h
    by_contra hne
    exact absurd h (toNat_pos hne).ne'
  · intro h
    rw [h, zero_toNat]

theorem rateQuotient_eq_none_iff :
    rateQuotient r q = none ↔ ratioDivisor r.toNat q.toNat = 0 := by
  rw [← divisor_toNat, toNat_eq_zero_iff, rateQuotient]
  split
  case isTrue hne => exact iff_of_false (Option.some_ne_none _) hne
  case isFalse heq => exact iff_of_true rfl (not_not.mp heq)

/-- **The ratio**, in numbers: the low word of the quotient. -/
theorem rateQuotient_toNat (h : rateQuotient r q = some w) :
    w.toNat = r.toNat * 2 ^ ratioShift r.toNat / ratioDivisor r.toNat q.toNat % 2 ^ 32 := by
  rw [rateQuotient] at h
  split at h
  case isTrue hne =>
    rw [← Option.some_inj.mp h, TdUint64.lowPart_toNat, uint64DividedByUint64,
      (uint64DivMod_toNat hne).1, dividend_toNat, divisor_toNat]
  case isFalse => cases h

/-! ### What is stored -/

/-- A ratio that is marked as valid is within the limits. -/
def PdelayPort.Sane (pp : PdelayPort) : Prop :=
  pp.neighborRateRatioValid = true →
    rateRatioMin < pp.neighborRateRatio ∧ pp.neighborRateRatio < rateRatioMax

theorem and_sign_ne_zero_iff {x : Int32} : x.toUInt32 &&& 0x80000000 ≠ 0 ↔ x < 0 := by
  have hbit : (1 <<< UInt32.ofNat 31 : UInt32) = 0x80000000 := rfl
  have hlow := x.le_toInt
  have hhigh := x.toInt_lt
  have hword := @toUInt32_toNat x
  rw [← hbit, and_shiftLeft_ne_zero_iff (by omega), Nat.testBit_eq_decide_div_mod_eq,
    decide_eq_true_iff, Int32.lt_iff_toInt_lt]
  show _ ↔ x.toInt < 0
  omega

/-- One of the two times has gone backwards. -/
theorem backwards_iff {x y : Int32} :
    (x.toUInt32 &&& 0x80000000) ||| (y.toUInt32 &&& 0x80000000) ≠ 0 ↔ x < 0 ∨ y < 0 := by
  rw [← and_sign_ne_zero_iff, ← and_sign_ne_zero_iff, Ne, UInt32.or_eq_zero_iff, not_and_or]

/-- The two elapsed times are in a ratio within the limits, but for a multiple of two: what is more
than a word is cut off. -/
def SameRate (r q : ℕ) : Prop :=
  ratioDivisor r q = 0 ∨
    ∃ k, (k * 2 ^ 32 + rateRatioMin.toNat + 1) * ratioDivisor r q ≤ r * 2 ^ ratioShift r ∧
      r * 2 ^ ratioShift r < (k * 2 ^ 32 + rateRatioMax.toNat) * ratioDivisor r q

theorem quotient_within_iff {x d : ℕ} (hd : 0 < d) :
    (rateRatioMin.toNat < x / d % 2 ^ 32 ∧ x / d % 2 ^ 32 < rateRatioMax.toNat) ↔
      ∃ k, (k * 2 ^ 32 + rateRatioMin.toNat + 1) * d ≤ x ∧
        x < (k * 2 ^ 32 + rateRatioMax.toNat) * d := by
  have hmax : rateRatioMax.toNat < 2 ^ 32 := rateRatioMax.toNat_lt
  constructor
  · rintro ⟨hlow, hhigh⟩
    refine ⟨x / d / 2 ^ 32, (Nat.le_div_iff_mul_le hd).mp ?_, (Nat.div_lt_iff_lt_mul hd).mp ?_⟩
    · omega
    · omega
  · rintro ⟨k, hlow, hhigh⟩
    have hlow' := (Nat.le_div_iff_mul_le hd).mpr hlow
    have hhigh' := (Nat.div_lt_iff_lt_mul hd).mpr hhigh
    omega

/-- **A quotient is within the limits** exactly if the two clocks go at the same rate. -/
theorem sameRate_iff : SameRate r.toNat q.toNat ↔
    ∀ w, rateQuotient r q = some w → rateRatioMin < w ∧ w < rateRatioMax := by
  rw [SameRate]
  cases hquotient : rateQuotient r q with
  | none => exact iff_of_true (Or.inl (rateQuotient_eq_none_iff.mp hquotient)) fun w h => by cases h
  | some v =>
    have hne : ratioDivisor r.toNat q.toNat ≠ 0 := fun h =>
      Option.some_ne_none v (hquotient.symm.trans (rateQuotient_eq_none_iff.mpr h))
    rw [or_iff_right hne, ← quotient_within_iff (Nat.pos_of_ne_zero hne),
      ← rateQuotient_toNat hquotient]
    simp only [Option.some_inj, forall_eq', UInt32.lt_iff_toNat_lt]

theorem rateQuotient_pos (h : uint64RShift q (UInt32.ofNat (31 - rateRatioShift r)) ≠ .zero) :
    rateQuotient r q = some (uint64DividedByUint64 (uint64LShift r (UInt32.ofNat (rateRatioShift r)))
      (uint64RShift q (UInt32.ofNat (31 - rateRatioShift r)))).lowPart :=
  if_pos h

theorem rateQuotient_neg (h : ¬ uint64RShift q (UInt32.ofNat (31 - rateRatioShift r)) ≠ .zero) :
    rateQuotient r q = none :=
  if_neg h

/-- The peer's clock and the local one have not gone backwards since the timestamps that were kept,
and they have gone at the same rate. -/
def KeepsRate (txTimestamp txTimestampI rxTimestamp rxTimestampI : PtpTime) : Prop :=
  let difference := timestampDifference txTimestamp txTimestampI
  let difference2 := timestampDifference rxTimestamp rxTimestampI
  difference.secondsUpper < 0 ∨ difference2.secondsUpper < 0 ∨
    SameRate (nanosecondsOf difference).toNat (nanosecondsOf difference2).toNat

theorem stored_sane_iff {pp : PdelayPort} {i i' : PtpTime} {b : Bool} :
    PdelayPort.Sane { pp with
        pdelayRespTxTimestampI := i
        pdelayRespRxTimestampI := i'
        initPdelayRespReceived := b
        neighborRateRatio := w
        neighborRateRatioValid := true } ↔ rateRatioMin < w ∧ w < rateRatioMax :=
  ⟨fun h => h rfl, fun h _ => h⟩

theorem some_within_iff : rateRatioMin < w ∧ w < rateRatioMax ↔
    ∀ v, some w = some v → rateRatioMin < v ∧ v < rateRatioMax := by
  simp only [Option.some_inj, forall_eq']

/-- **`computePdelayRateRatio` keeps a ratio sane** exactly if the first response is yet to come, or
one of the clocks goes backwards, or both go at the same rate. -/
theorem computePdelayRateRatio_sane_iff {pp : PdelayPort} (h : pp.Sane) :
    (computePdelayRateRatio pp).Sane ↔ (pp.initPdelayRespReceived = true →
      KeepsRate pp.pdelayRespTxTimestamp.time pp.pdelayRespTxTimestampI
        pp.pdelayRespRxTimestamp.time pp.pdelayRespRxTimestampI) := by
  rw [computePdelayRateRatio, KeepsRate]
  cases hinit : pp.initPdelayRespReceived with
  | false => exact iff_of_true h fun hfalse => absurd hfalse Bool.false_ne_true
  | true =>
    rw [if_neg (by decide), forall_prop_of_true rfl]
    dsimp only
    generalize timestampDifference pp.pdelayRespTxTimestamp.time pp.pdelayRespTxTimestampI = d
    generalize timestampDifference pp.pdelayRespRxTimestamp.time pp.pdelayRespRxTimestampI = d2
    by_cases hback : d.secondsUpper < 0 ∨ d2.secondsUpper < 0
    · rw [if_pos (backwards_iff.mpr hback)]
      refine iff_of_true (fun hvalid => absurd hvalid Bool.false_ne_true) ?_
      rw [← or_assoc]
      exact Or.inl hback
    · rw [if_neg (mt backwards_iff.mp hback), ← or_assoc, or_iff_right hback, sameRate_iff]
      split
      case isTrue hdivisor =>
        rw [rateQuotient_pos hdivisor]
        exact stored_sane_iff.trans some_within_iff
      case isFalse hdivisor =>
        rw [rateQuotient_neg hdivisor]
        exact iff_of_true h fun w hw => by cases hw

/-- A quotient that is within the limits may be stored. -/
theorem stored_sane {pp : RatePort} (h : w < rateRatioMax ∧ rateRatioMin < w) :
    PdelayPort.Sane { pp.toPdelayPort with neighborRateRatio := w, neighborRateRatioValid := true } :=
  fun _ => h.symm

variable {t : RateSystem n} {p i : Fin n} {pp : RatePort}

theorem setPort_sane (h : (t.ports i).Sane) (hpp : pp.Sane) : ((t.setPort p pp).ports i).Sane := by
  rw [RateSystem.setPort]
  dsimp only
  by_cases hi : i = p
  · rw [hi, Function.update_self]
    exact hpp
  · rw [Function.update_of_ne hi]
    exact h

/-- **`computeDelayRateRatio` keeps every ratio sane**: what is out of the limits is not stored. -/
theorem computeDelayRateRatio_sane (h : ∀ i, (t.ports i).Sane) :
    ((computeDelayRateRatio t p).ports i).Sane := by
  have hinvalid : ∀ pp : RatePort, pp.neighborRateRatioValid = false → pp.Sane := by
    intro pp hfalse hvalid
    exact absurd (hfalse.symm.trans hvalid) Bool.false_ne_true
  rw [computeDelayRateRatio]
  dsimp only
  split
  · exact setPort_sane (h i) (h p)
  split
  · exact setPort_sane (h i) (hinvalid _ rfl)
  split
  · split
    case isTrue hlimits => exact setPort_sane (h i) (stored_sane hlimits)
    case isFalse => exact setPort_sane (h i) (hinvalid _ rfl)
  · exact h i

end Gptp
