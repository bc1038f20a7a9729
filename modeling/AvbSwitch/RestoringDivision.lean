/-
Division by comparing and subtracting.

The divisor is shifted up to the leading bit of the dividend.  In each turn it is subtracted if it is
not too large, which is one bit of the quotient, and shifted down by one.

* `turn_shifted` — what one turn takes off the dividend;
* `turns_spec` — after as many turns as the divisor was shifted, and one, the rest is the remainder
  and the bits are the quotient.
-/
import Mathlib.Tactic

namespace RestoringDivision

variable {x y z d n : ℕ}

/-- The rest, the shifted divisor, the bits of the quotient. -/
structure Division where
  x : ℕ
  y : ℕ
  z : ℕ

/-- One bit of the quotient. -/
def turn (s : Division) : Division where
  x := if s.y ≤ s.x then s.x - s.y else s.x
  y := s.y / 2
  z := 2 * s.z + if s.y ≤ s.x then 1 else 0

/-- A turn with the divisor shifted up by `n + 1`. -/
theorem turn_shifted (hx : x < d * 2 ^ (n + 2)) :
    ∃ b x', turn ⟨x, d * 2 ^ (n + 1), z⟩ = ⟨x', d * 2 ^ n, 2 * z + b⟩ ∧ x' < d * 2 ^ (n + 1) ∧
      x = d * 2 ^ (n + 1) * b + x' := by
  have hhalf : d * 2 ^ (n + 1) / 2 = d * 2 ^ n := by
    rw [pow_succ, ← Nat.mul_assoc, Nat.mul_div_cancel _ Nat.two_pos]
  have htwice : d * 2 ^ (n + 2) = 2 * (d * 2 ^ (n + 1)) := by ring
  rw [turn]
  dsimp only
  rw [hhalf]
  by_cases hle : d * 2 ^ (n + 1) ≤ x
  · rw [if_pos hle, if_pos hle]
    refine ⟨1, x - d * 2 ^ (n + 1), rfl, by omega, ?_⟩
    rw [Nat.mul_one, Nat.add_sub_cancel' hle]
  · rw [if_neg hle, if_neg hle]
    refine ⟨0, x, rfl, Nat.lt_of_not_le hle, ?_⟩
    rw [Nat.mul_zero, Nat.zero_add]

/-- **Quotient and remainder** come out of as many turns as the divisor was shifted, and one. -/
theorem turns_spec (hd : 0 < d) (hx : x < d * 2 ^ (n + 1)) :
    (turn^[n + 1] ⟨x, d * 2 ^ n, z⟩).x = x % d ∧
      (turn^[n + 1] ⟨x, d * 2 ^ n, z⟩).z = z * 2 ^ (n + 1) + x / d := by
  induction n generalizing x z with
  | zero =>
    rw [pow_one] at hx
    rw [Function.iterate_one, turn, pow_zero, Nat.mul_one, zero_add, pow_one]
    dsimp only
    by_cases hle : d ≤ x
    · rw [if_pos hle, if_pos hle, Nat.mod_eq_sub_mod hle, Nat.mod_eq_of_lt (by omega),
        Nat.div_eq_sub_div hd hle, Nat.div_eq_of_lt (by omega), Nat.mul_comm]
      exact ⟨rfl, rfl⟩
    · have hlt : x < d := Nat.lt_of_not_le hle
      rw [if_neg hle, if_neg hle, Nat.mod_eq_of_lt hlt, Nat.div_eq_of_lt hlt, Nat.mul_comm]
      exact ⟨rfl, rfl⟩
  | succ n ih =>
    obtain ⟨b, x', hturn, hlt, hsplit⟩ := turn_shifted (z := z) hx
    have hmul : d * 2 ^ (n + 1) * b = d * (2 ^ (n + 1) * b) := Nat.mul_assoc ..
    obtain ⟨hrest, hquotient⟩ := ih (x := x') (z := 2 * z + b) hlt
    rw [Function.iterate_succ_apply, hturn, hrest, hquotient, hsplit, hmul, Nat.mul_add_mod,
      Nat.mul_add_div hd]
    refine ⟨rfl, ?_⟩
    ring

end RestoringDivision
