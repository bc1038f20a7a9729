/-
Ratios of two numbers with a fixed point.

The ratio of `r` and `q` with `w` bits behind the point is `r * 2 ^ w / q`.  If the product may be
too large, the shift is split: the dividend goes up by `s` bits, and the divisor goes down by the
others.

* `ratio_le_splitRatio` — what the divisor loses makes the quotient larger, never smaller;
* `splitRatio_self` — equal numbers have the ratio one, if the divisor keeps as many bits as there
  are behind the point;
* `ratio_succ_half` — one bit more, and halved, is the same ratio.
-/
import Mathlib.Data.Nat.ModEq
import Mathlib.Tactic.Ring

namespace FixedPoint

variable {w s r r' q : ℕ}

/-- The ratio of `r` and `q` with `w` bits behind the point, rounded down. -/
def ratio (w r q : ℕ) : ℕ := r * 2 ^ w / q

/-- The same with the shift split. -/
def splitRatio (w s r q : ℕ) : ℕ := r * 2 ^ s / (q / 2 ^ (w - s))

/-- A shift that is not split. -/
theorem splitRatio_whole : splitRatio w w r q = ratio w r q := by
  rw [splitRatio, ratio, Nat.sub_self, Nat.pow_zero, Nat.div_one]

/-- **A split shift** makes the ratio larger, if anything. -/
theorem ratio_le_splitRatio (hs : s ≤ w) (hd : 0 < q / 2 ^ (w - s)) :
    ratio w r q ≤ splitRatio w s r q := by
  have hpow : 2 ^ s * 2 ^ (w - s) = 2 ^ w := by rw [← pow_add, Nat.add_sub_cancel' hs]
  have hle : q / 2 ^ (w - s) * 2 ^ (w - s) ≤ q := Nat.div_mul_le_self q _
  calc
    ratio w r q = r * 2 ^ s * 2 ^ (w - s) / q := by rw [ratio, Nat.mul_assoc, hpow]
    _ ≤ r * 2 ^ s * 2 ^ (w - s) / (q / 2 ^ (w - s) * 2 ^ (w - s)) :=
      Nat.div_le_div_left hle (Nat.mul_pos hd (Nat.two_pow_pos _))
    _ = splitRatio w s r q := Nat.mul_div_mul_right _ _ (Nat.two_pow_pos _)

theorem ratio_self (hr : 0 < r) : ratio w r r = 2 ^ w := Nat.mul_div_cancel_left _ hr

/-- **Equal numbers** have the ratio one: what the divisor loses is less than one part of it. -/
theorem splitRatio_self (hs : s ≤ w) (hd : 2 ^ w ≤ r / 2 ^ (w - s)) :
    splitRatio w s r r = 2 ^ w := by
  have hpow : 2 ^ (w - s) * 2 ^ s = 2 ^ w := by rw [← pow_add, Nat.sub_add_cancel hs]
  have hrest : r % 2 ^ (w - s) * 2 ^ s < 2 ^ w := by
    rw [← hpow]
    exact Nat.mul_lt_mul_of_pos_right (Nat.mod_lt _ (Nat.two_pow_pos _)) (Nat.two_pow_pos _)
  have hsplit : r * 2 ^ s = r % 2 ^ (w - s) * 2 ^ s + r / 2 ^ (w - s) * 2 ^ w := by
    calc
      r * 2 ^ s = (r % 2 ^ (w - s) + r / 2 ^ (w - s) * 2 ^ (w - s)) * 2 ^ s := by
        rw [Nat.mod_add_div']
      _ = r % 2 ^ (w - s) * 2 ^ s + r / 2 ^ (w - s) * 2 ^ w := by
        rw [Nat.add_mul, Nat.mul_assoc, hpow]
  rw [splitRatio, hsplit, Nat.add_mul_div_left _ _ (lt_of_lt_of_le (Nat.two_pow_pos w) hd),
    Nat.div_eq_of_lt (lt_of_lt_of_le hrest hd), Nat.zero_add]

/-- One bit more behind the point, and halved. -/
theorem ratio_succ_half : ratio (w + 1) r q / 2 = ratio w r q := by
  rw [ratio, ratio, Nat.div_div_eq_div_mul, pow_succ, ← Nat.mul_assoc,
    Nat.mul_div_mul_right _ _ Nat.two_pos]

theorem ratio_mono (h : r ≤ r') : ratio w r q ≤ ratio w r' q :=
  Nat.div_le_div_right (Nat.mul_le_mul_right _ h)

/-- A ratio is one exactly for equal numbers, if the divisor has no more bits than there are behind
the point. -/
theorem ratio_eq_one_iff (hq : 0 < q) (hlt : q ≤ 2 ^ w) : ratio w r q = 2 ^ w ↔ r = q := by
  constructor
  · intro h
    have hlow : 2 ^ w * q ≤ r * 2 ^ w := (Nat.le_div_iff_mul_le hq).mp h.ge
    have hhigh : r * 2 ^ w < (2 ^ w + 1) * q :=
      (Nat.div_lt_iff_lt_mul hq).mp (Nat.lt_succ_of_le h.le)
    have hle : q ≤ r := Nat.le_of_mul_le_mul_right (by rwa [Nat.mul_comm] at hlow)
      (Nat.two_pow_pos w)
    have hle' : r < q + 1 := by
      refine Nat.lt_of_mul_lt_mul_right (a := 2 ^ w) ?_
      calc
        r * 2 ^ w < (2 ^ w + 1) * q := hhigh
        _ = q * 2 ^ w + q := by ring
        _ ≤ (q + 1) * 2 ^ w := by
          rw [Nat.add_mul, Nat.one_mul]
          exact Nat.add_le_add_left hlt _
    exact Nat.le_antisymm (Nat.lt_succ_iff.mp hle') hle
  · rintro rfl
    exact ratio_self hq

end FixedPoint
