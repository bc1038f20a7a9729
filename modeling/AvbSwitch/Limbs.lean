/-
Numbers of two limbs, and products of limbs from products of half limbs.

A number is kept as `hi * B + lo` with `lo < B`.  Nothing here is about a particular base.

* `value_mod` — what overflows the high limb is a multiple of `B * B`;
* `value_add` — a sum, and the carry that goes to the high limb;
* `product_high` — the high limb of a product, from the products of the halves;
* `product_high_wrapped` — what is missing of it if the middle sum is cut to one limb;
* `product_low` — the low limb, which is right all the same.
-/
import Mathlib.Data.Nat.ModEq
import Mathlib.Tactic.Ring

namespace Limbs

variable {B b hi lo x y : ℕ}

/-! ### Two limbs -/

/-- The number that two limbs stand for. -/
def value (B hi lo : ℕ) : ℕ := hi * B + lo

theorem value_div (hlo : lo < B) : value B hi lo / B = hi := by
  rw [value, Nat.add_comm, Nat.add_mul_div_right _ _ (Nat.zero_lt_of_lt hlo), Nat.div_eq_of_lt hlo,
    Nat.zero_add]

theorem value_mod_low (hlo : lo < B) : value B hi lo % B = lo := Nat.mul_add_mod_of_lt hlo

/-- **What overflows the high limb** is a multiple of `B * B`. -/
theorem value_mod (hlo : lo < B) : value B (hi % B) lo = value B hi lo % (B * B) := by
  rw [Nat.mod_mul, value_div hlo, value_mod_low hlo, value, Nat.add_comm, Nat.mul_comm]

/-- Limbs of bits do not overlap, so that an or puts them together. -/
theorem or_eq_value {k : ℕ} (hlo : lo < 2 ^ k) : hi * 2 ^ k ||| lo = value (2 ^ k) hi lo := by
  rw [← Nat.shiftLeft_eq, ← Nat.shiftLeft_add_eq_or_of_lt hlo, Nat.shiftLeft_eq, value]

/-- A sum of limbs has gone over exactly if it is less than one of them. -/
theorem carry_eq (hlo : lo < B) (hy : y < B) :
    (if (lo + y) % B < lo then 1 else 0) = (lo + y) / B := by
  by_cases hover : B ≤ lo + y
  · have hmod : (lo + y) % B = lo + y - B := by
      rw [Nat.mod_eq_sub_mod hover, Nat.mod_eq_of_lt (by omega)]
    have hdiv : (lo + y) / B = 1 := Nat.div_eq_of_lt_le (by omega) (by omega)
    rw [hmod, hdiv, if_pos (by omega)]
  · rw [Nat.mod_eq_of_lt (by omega), Nat.div_eq_of_lt (by omega), if_neg (by omega)]

/-- **A sum** of a number and a limb. -/
theorem value_add (hB : 0 < B) :
    value B ((hi + (lo + y) / B) % B) ((lo + y) % B) = (value B hi lo + y) % (B * B) := by
  have hsum : value B (hi + (lo + y) / B) ((lo + y) % B) = value B hi lo + y := by
    have hsplit := Nat.div_add_mod' (lo + y) B
    rw [value, value, Nat.add_mul]
    omega
  rw [value_mod (Nat.mod_lt _ hB), hsum]

/-! ### Products of halves -/

/-- The sum of the two middle products and of what the product of the low halves carries. -/
def middleSum (b x y : ℕ) : ℕ := x / b * (y % b) + y / b * (x % b) + x % b * (y % b) / b

/-- **The high limb of a product**, from the products of the halves. -/
theorem product_high (hb : 0 < b) :
    x * y / (b * b) = x / b * (y / b) + middleSum b x y / b := by
  have hhalves : x * y = (x / b * (y / b) * b + (x / b * (y % b) + y / b * (x % b))) * b +
      x % b * (y % b) := by
    calc
      x * y = (x / b * b + x % b) * (y / b * b + y % b) := by
        rw [Nat.div_add_mod', Nat.div_add_mod']
      _ = _ := by ring
  calc
    x * y / (b * b) = x * y / b / b := (Nat.div_div_eq_div_mul _ _ _).symm
    _ = (x / b * (y / b) * b + (x / b * (y % b) + y / b * (x % b)) + x % b * (y % b) / b) / b := by
      rw [hhalves, Nat.add_comm (_ * b), Nat.add_mul_div_right _ _ hb, Nat.add_comm (_ / b)]
    _ = (middleSum b x y + x / b * (y / b) * b) / b := by
      rw [middleSum, Nat.add_assoc, Nat.add_comm]
    _ = x / b * (y / b) + middleSum b x y / b := by
      rw [Nat.add_mul_div_right _ _ hb, Nat.add_comm]

/-- **The middle sum cut to one limb.**  The high limb is less by `b` for each time that the sum
has gone over. -/
theorem product_high_wrapped (hb : 0 < b) :
    x / b * (y / b) + middleSum b x y % (b * b) / b + b * (middleSum b x y / (b * b)) =
      x * y / (b * b) := by
  have hsplit := Nat.mod_add_div (middleSum b x y / b) b
  rw [product_high hb, Nat.mod_mul_right_div_self, ← Nat.div_div_eq_div_mul]
  omega

/-- **The low limb of a product**: it takes the low half of the middle sum. -/
theorem product_low (hb : 0 < b) :
    x * y % (b * b) = value b (middleSum b x y % b) (x % b * (y % b) % b) := by
  have hhalves : x * y = value b (middleSum b x y) (x % b * (y % b) % b) +
      b * b * (x / b * (y / b)) := by
    have hlow := Nat.div_add_mod' (x % b * (y % b)) b
    calc
      x * y = (x / b * b + x % b) * (y / b * b + y % b) := by
        rw [Nat.div_add_mod', Nat.div_add_mod']
      _ = (x / b * (y % b) + y / b * (x % b)) * b + x % b * (y % b) +
          b * b * (x / b * (y / b)) := by ring
      _ = _ := by
        rw [value, middleSum, Nat.add_mul _ (x % b * (y % b) / b)]
        omega
  rw [hhalves, Nat.add_mul_mod_self_left, value_mod (Nat.mod_lt _ hb)]

end Limbs
