/-
What the emulated division computes.

`Uint64DivMod` finds the leading bits of both operands, shifts the divisor up by their distance, and
goes on as in `RestoringDivision`.

* `leftmostBit_eq` — the search finds the logarithm of a word;
* `uint64LShift_toNat` — a shift to the left is exact modulo 2^64;
* `aligned_toNat` — the divisor is shifted by the distance of the leading bits;
* `uint64DivMod_toNat` — quotient and remainder are those of the numbers;
* `uint64DivModWhile_spec` — the loop ends, whatever it divides by.
-/
import AvbSwitch.EmulatedArithmetic
import AvbSwitch.RestoringDivision

namespace Gptp

open RestoringDivision

variable {w n : UInt32} {a x y : TdUint64} {i j d k m : ℕ} {s : DivModState} {u : Division}

/-! ### The leading bit -/

/-- One step of the search: the index moves by `d`. -/
def probe (w : UInt32) (i d : ℕ) : ℕ := if w >>> UInt32.ofNat i ≠ 0 then i + d else i - d

theorem leftmostBit_probes : leftmostBit w =
    let i := probe w (probe w (probe w (probe w 16 8) 4) 2) 1
    if w >>> UInt32.ofNat i = 0 then i - 1 else i := rfl

theorem ofNat_toNat_of_lt (hi : i < 32) : (UInt32.ofNat i).toNat = i := by
  rw [UInt32.toNat_ofNat']
  exact Nat.mod_eq_of_lt (by omega)

/-- Something is left of a word if it is shifted by no more than its logarithm. -/
theorem shiftRight_ne_zero_iff (hi : i < 32) (hpos : 0 < i) :
    w >>> UInt32.ofNat i ≠ 0 ↔ i ≤ w.toNat.log2 := by
  have hshift := ofNat_toNat_of_lt hi
  rw [Ne, ← UInt32.toNat_inj, shiftRight_toNat (hshift.trans_lt hi), hshift, UInt32.toNat_zero,
    Nat.div_eq_zero_iff_lt (Nat.two_pow_pos i), not_lt]
  by_cases hw : w.toNat = 0
  · rw [hw]
    refine iff_of_false (Nat.not_le.mpr (Nat.two_pow_pos i)) ?_
    exact Nat.not_le.mpr hpos
  · exact (Nat.le_log2 hw).symm

theorem log2_lt (hk : 0 < k) (hm : m < 2 ^ k) : m.log2 < k := by
  by_cases hzero : m = 0
  · rw [hzero]
    exact hk
  · exact (Nat.log2_lt hzero).mpr hm

/-- The logarithm lies within `r` of the index, from below and from above. -/
structure Near (w : UInt32) (i r : ℕ) : Prop where
  below : i ≤ w.toNat.log2 + r
  above : w.toNat.log2 < i + r
  radius : r ≤ i
  top : i + r ≤ 32

/-- A step halves the distance. -/
theorem Near.probe (h : Near w i (2 * d)) (hd : 0 < d) : Near w (probe w i d) d := by
  have htop := h.top
  have hradius := h.radius
  have hbelow := h.below
  have habove := h.above
  have hprobe := shiftRight_ne_zero_iff (w := w) (i := i) (by omega) (by omega)
  rw [Gptp.probe]
  by_cases hle : i ≤ w.toNat.log2
  · rw [if_pos (hprobe.mpr hle)]
    constructor <;> omega
  · rw [if_neg (mt hprobe.mp hle)]
    constructor <;> omega

/-- **The search finds the logarithm.** -/
theorem leftmostBit_eq : leftmostBit w = w.toNat.log2 := by
  have hlt := log2_lt (k := 32) (by omega) w.toNat_lt
  have hfirst : Near w 16 (2 * 8) := by
    constructor <;> omega
  have hsecond : Near w (probe w 16 8) (2 * 4) := hfirst.probe (by omega)
  have hthird : Near w (probe w (probe w 16 8) 4) (2 * 2) := hsecond.probe (by omega)
  have hlast := (hthird.probe (d := 2) (by omega)).probe (d := 1) (by omega)
  rw [leftmostBit_probes]
  dsimp only
  set i := probe w (probe w (probe w (probe w 16 8) 4) 2) 1 with hi
  have htop := hlast.top
  have hbelow := hlast.below
  have habove := hlast.above
  have hprobe := shiftRight_ne_zero_iff (w := w) (i := i) (by omega) hlast.radius
  by_cases hle : i ≤ w.toNat.log2
  · rw [if_neg (hprobe.mpr hle)]
    omega
  · rw [if_pos (not_not.mp (mt hprobe.mp hle))]
    omega

/-! ### Shifts to the left -/

theorem TdUint64.toNat_lt (a : TdUint64) : a.toNat < 2 ^ 64 := by
  have hhigh := a.highPart.toNat_lt
  have hlow := a.lowPart.toNat_lt
  rw [TdUint64.toNat, Limbs.value]
  omega

/-- The bits that a shift moves from the low word to the high one, and what it leaves. -/
theorem shiftedUp_toNat {s : UInt32} (hs : s.toNat < 32) (hpos : 0 < s.toNat) :
    (TdUint64.mk ((a.highPart <<< s) ||| (a.lowPart >>> (32 - s))) (a.lowPart <<< s)).toNat =
      a.toNat * 2 ^ s.toNat % 2 ^ 64 := by
  have hback := back_toNat hs.le
  have hword : 2 ^ (32 - s.toNat) * 2 ^ s.toNat = 2 ^ 32 :=
    (Nat.mul_comm ..).trans (two_pow_back hs.le)
  have hhigh : ((a.highPart <<< s) ||| (a.lowPart >>> (32 - s))).toNat =
      (a.highPart.toNat * 2 ^ s.toNat + a.lowPart.toNat / 2 ^ (32 - s.toNat)) % 2 ^ 32 := by
    have hcarried : a.lowPart.toNat / 2 ^ (32 - s.toNat) < 2 ^ s.toNat := by
      rw [Nat.div_lt_iff_lt_mul (Nat.two_pow_pos _), Nat.mul_comm, hword]
      exact a.lowPart.toNat_lt
    have hleft : (a.highPart <<< s).toNat =
        a.highPart.toNat % 2 ^ (32 - s.toNat) * 2 ^ s.toNat := by
      rw [shiftLeft_toNat hs, ← hword, Nat.mul_mod_mul_right]
    have hright : (a.lowPart >>> (32 - s)).toNat = a.lowPart.toNat / 2 ^ (32 - s.toNat) := by
      rw [shiftRight_toNat (by omega), hback]
    rw [UInt32.toNat_or, hleft, hright, Limbs.or_eq_value hcarried, Limbs.value, ← hword,
      Nat.mul_comm (2 ^ (32 - s.toNat)), Nat.mod_mul, Nat.mul_add_mod_of_lt hcarried]
    have hhigh : (a.highPart.toNat * 2 ^ s.toNat + a.lowPart.toNat / 2 ^ (32 - s.toNat)) /
        2 ^ s.toNat = a.highPart.toNat := Limbs.value_div hcarried
    rw [hhigh, Nat.mul_comm, Nat.add_comm]
  have hlow : (a.lowPart <<< s).toNat = a.lowPart.toNat * 2 ^ s.toNat % 2 ^ 32 :=
    shiftLeft_toNat hs
  have hcarry : a.lowPart.toNat / 2 ^ (32 - s.toNat) = a.lowPart.toNat * 2 ^ s.toNat / 2 ^ 32 := by
    rw [← hword, Nat.mul_div_mul_right _ _ (Nat.two_pow_pos _)]
  rw [TdUint64.toNat, TdUint64.toNat]
  dsimp only
  rw [hhigh, hlow, hcarry, Limbs.value_mod (Nat.mod_lt _ (by norm_num))]
  congr 1
  rw [Limbs.value, Limbs.value]
  have hsplit := Nat.div_add_mod' (a.lowPart.toNat * 2 ^ s.toNat) (2 ^ 32)
  rw [Nat.add_mul, Nat.add_mul, Nat.mul_right_comm]
  omega

/-- **A shift to the left** by less than the length of a word is exact modulo 2^64. -/
theorem uint64LShift_toNat (hn : n.toNat < 32) :
    (uint64LShift a n).toNat = a.toNat * 2 ^ n.toNat % 2 ^ 64 := by
  have hsmall : ¬ 31 < n := fun h => absurd (UInt32.lt_iff_toNat_lt.mp h) (Nat.not_lt.mpr (by
    show n.toNat ≤ 31
    omega))
  rw [uint64LShift, int64LShift, if_neg (not_not.mpr (shift_and_mask (by omega))),
    if_neg hsmall]
  by_cases hzero : n = 0
  · rw [if_neg (not_not.mpr hzero), hzero]
    show a.toNat = a.toNat * 1 % 2 ^ 64
    rw [Nat.mul_one, Nat.mod_eq_of_lt a.toNat_lt]
  · have hpos : 0 < n.toNat := Nat.pos_of_ne_zero fun h => hzero (UInt32.toNat.inj h)
    rw [if_pos hzero]
    exact shiftedUp_toNat hn hpos

/-! ### The loop -/

/-- The comparison of the words. -/
def DivModState.xgey (s : DivModState) : Bool :=
  if s.x.highPart ≠ s.y.highPart then s.y.highPart < s.x.highPart else s.y.lowPart ≤ s.x.lowPart

/-- The three numbers of the loop; the quotient is kept modulo 2^64. -/
structure DivModState.Is (s : DivModState) (u : Division) : Prop where
  x : s.x.toNat = u.x
  y : s.y.toNat = u.y
  z : s.z.toNat = u.z % 2 ^ 64

/-- It is that of the numbers. -/
theorem DivModState.xgey_iff : s.xgey = true ↔ s.y.toNat ≤ s.x.toNat := by
  have hlow := s.x.lowPart.toNat_lt
  have hlow' := s.y.lowPart.toNat_lt
  rw [xgey, TdUint64.toNat, TdUint64.toNat, Limbs.value, Limbs.value]
  by_cases hhigh : s.x.highPart = s.y.highPart
  · rw [if_neg (not_not.mpr hhigh), decide_eq_true_iff, UInt32.le_iff_toNat_le, hhigh]
    omega
  · have hne : s.x.highPart.toNat ≠ s.y.highPart.toNat := fun h => hhigh (UInt32.toNat.inj h)
    rw [if_pos hhigh, decide_eq_true_iff, UInt32.lt_iff_toNat_lt]
    omega

/-- The divisor is shifted down by one. -/
theorem divModTurn_y : (divModTurn s).y.toNat = s.y.toNat / 2 := by
  have hshift : (divModTurn s).y = uint64RShift s.y 1 := rfl
  rw [hshift, uint64RShift_toNat (by decide)]
  rfl

/-- It is taken off the rest if it is not too large. -/
theorem divModTurn_x : (divModTurn s).x.toNat =
    if s.y.toNat ≤ s.x.toNat then s.x.toNat - s.y.toNat else s.x.toNat := by
  have hlt := s.x.toNat_lt
  by_cases hle : s.y.toNat ≤ s.x.toNat
  · have hsubtract : (divModTurn s).x = int64Subtract s.x s.y := by
      show TdUint64.mk (_ - if s.xgey then _ else _) (_ - if s.xgey then _ else _) = _
      rw [if_pos (s.xgey_iff.mpr hle), if_pos (s.xgey_iff.mpr hle), int64Subtract]
    have hdifference := @int64Subtract_toNat s.x s.y
    rw [if_pos hle, hsubtract]
    omega
  · have hkept : (divModTurn s).x = s.x := by
      show TdUint64.mk (_ - if s.xgey then _ else _) (_ - if s.xgey then _ else _) = _
      rw [if_neg (mt s.xgey_iff.mp hle), if_neg (mt s.xgey_iff.mp hle), UInt32.sub_zero,
        UInt32.sub_zero]
    rw [if_neg hle, hkept]

/-- The quotient is shifted up by one, and takes the bit. -/
theorem divModTurn_z : (divModTurn s).z.toNat =
    (2 * s.z.toNat + if s.y.toNat ≤ s.x.toNat then 1 else 0) % 2 ^ 64 := by
  have hbit : (if s.xgey then 1 else 0 : UInt32).toNat =
      if s.y.toNat ≤ s.x.toNat then 1 else 0 := by
    rw [← if_congr s.xgey_iff rfl rfl]
    split <;> rfl
  have hle : (if s.y.toNat ≤ s.x.toNat then 1 else 0) ≤ 1 := by
    split <;> omega
  have hhigh := s.z.highPart.toNat_lt
  have hlow := s.z.lowPart.toNat_lt
  rw [TdUint64.toNat, TdUint64.toNat, Limbs.value, Limbs.value]
  show (s.z.highPart + (s.z.highPart + carry s.z.lowPart s.z.lowPart)).toNat * 2 ^ 32 +
    (s.z.lowPart + (s.z.lowPart + if s.xgey then 1 else 0)).toNat = _
  rw [UInt32.toNat_add, UInt32.toNat_add, UInt32.toNat_add, UInt32.toNat_add, hbit, carry_toNat]
  omega

/-- A turn on the words is one on the numbers. -/
theorem DivModState.Is.turn (h : s.Is u) : (divModTurn s).Is (RestoringDivision.turn u) where
  x := by
    rw [divModTurn_x, h.x, h.y]
    rfl
  y := by
    rw [divModTurn_y, h.y]
    rfl
  z := by
    rw [divModTurn_z, h.x, h.y, h.z, RestoringDivision.turn, Nat.add_mod, Nat.mul_mod_mod,
      ← Nat.add_mod]

theorem DivModState.Is.turns (h : s.Is u) :
    (divModTurn^[k] s).Is (RestoringDivision.turn^[k] u) := by
  induction k generalizing s u with
  | zero => exact h
  | succ k ih =>
    rw [Function.iterate_succ_apply, Function.iterate_succ_apply]
    exact ih h.turn

/-! ### The alignment -/

/-- `1` for a number with a high word. -/
def TdUint64.upper (a : TdUint64) : ℤ := if a.highPart ≠ 0 then 1 else 0

/-- The index of the leftmost bit in the word that it is in. -/
def TdUint64.leading (a : TdUint64) : ℕ :=
  leftmostBit (if a.highPart ≠ 0 then a.highPart else a.lowPart)

/-- How far the leftmost bits of two numbers are apart, as `Uint64DivMod` counts. -/
def distance (x y : TdUint64) : ℤ := (x.leading : ℤ) - y.leading + (x.upper - y.upper) * 32

/-- The divisor after it was shifted by the distance within a word. -/
def misaligned (y : TdUint64) (i j : ℕ) : TdUint64 where
  highPart := (y.highPart <<< UInt32.ofInt (((i : ℤ) - j) % 32)) |||
    (if i ≠ j then y.lowPart >>> UInt32.ofInt ((32 - ((i : ℤ) - j)) % 32) else 0)
  lowPart := y.lowPart <<< UInt32.ofInt (((i : ℤ) - j) % 32)

/-- The divisor as the loop starts with it. -/
def aligned (x y : TdUint64) : TdUint64 :=
  if distance x y < 32 then misaligned y x.leading y.leading
  else ⟨(misaligned y x.leading y.leading).lowPart, 0⟩

theorem uint64DivMod_of_ne_zero (hy : y ≠ .zero) :
    uint64DivMod x y =
      let s := divModTurn^[(distance x y + 1).toNat] ⟨x, aligned x y, .zero⟩
      (s.z, s.x) := by
  rw [uint64DivMod, if_neg hy]
  rfl

theorem leading_lt : a.leading < 32 := by
  rw [TdUint64.leading, leftmostBit_eq]
  exact log2_lt (by omega) (UInt32.toNat_lt _)

theorem upper_eq : a.upper = 0 ∨ a.upper = 1 := by
  rw [TdUint64.upper]
  split
  · exact Or.inr rfl
  · exact Or.inl rfl

theorem toNat_log2 (hne : a.highPart.toNat ≠ 0) :
    a.toNat.log2 = a.highPart.toNat.log2 + 32 := by
  have hlow := a.lowPart.toNat_lt
  have hpow := Nat.log2_self_le hne
  have hpow' := Nat.lt_log2_self (n := a.highPart.toNat)
  have hword : 2 ^ (a.highPart.toNat.log2 + 32) = 2 ^ a.highPart.toNat.log2 * 2 ^ 32 := pow_add ..
  have hword' : 2 ^ (a.highPart.toNat.log2 + 32 + 1) =
      2 ^ (a.highPart.toNat.log2 + 1) * 2 ^ 32 := by
    ring
  rw [TdUint64.toNat, Limbs.value]
  refine (Nat.log2_eq_iff (by omega)).mpr ?_
  rw [hword, hword']
  omega

/-- Both together are the logarithm of the number. -/
theorem leading_upper : (a.leading : ℤ) + a.upper * 32 = a.toNat.log2 := by
  rw [TdUint64.leading, TdUint64.upper, leftmostBit_eq]
  by_cases hhigh : a.highPart = 0
  · have hlow : a.toNat = a.lowPart.toNat := by
      rw [TdUint64.toNat, Limbs.value, hhigh, UInt32.toNat_zero, Nat.zero_mul, Nat.zero_add]
    rw [if_neg (not_not.mpr hhigh), if_neg (not_not.mpr hhigh), hlow, zero_mul, add_zero]
  · have hne : a.highPart.toNat ≠ 0 := fun h => hhigh (UInt32.toNat.inj h)
    rw [if_pos hhigh, if_pos hhigh, toNat_log2 hne]
    push_cast
    ring

/-- It is the difference of the logarithms. -/
theorem distance_eq : distance x y = x.toNat.log2 - y.toNat.log2 := by
  rw [← leading_upper, ← leading_upper, distance]
  ring

/-- How far the divisor is shifted within a word. -/
theorem misaligned_toNat (hi : i < 32) (hj : j < 32) :
    (misaligned y i j).toNat = y.toNat * 2 ^ (((i : ℤ) - j) % 32).toNat % 2 ^ 64 := by
  have hshift : (UInt32.ofInt (((i : ℤ) - j) % 32)).toNat = (((i : ℤ) - j) % 32).toNat := by
    rw [UInt32.ofInt, UInt32.toNat_ofNat']
    omega
  by_cases hij : i = j
  · have hzero : UInt32.ofInt (((i : ℤ) - j) % 32) = 0 := by
      rw [hij, sub_self]
      rfl
    rw [← hshift, misaligned, if_neg (not_not.mpr hij), hzero]
    show (TdUint64.mk ((y.highPart <<< (0 : UInt32)) ||| 0) (y.lowPart <<< (0 : UInt32))).toNat =
      y.toNat * 1 % 2 ^ 64
    rw [UInt32.shiftLeft_zero, UInt32.shiftLeft_zero, UInt32.or_zero, Nat.mul_one,
      Nat.mod_eq_of_lt y.toNat_lt]
  · have hback : UInt32.ofInt ((32 - ((i : ℤ) - j)) % 32) =
        32 - UInt32.ofInt (((i : ℤ) - j) % 32) := by
      refine UInt32.toNat.inj ?_
      rw [back_toNat (by omega), hshift, UInt32.ofInt, UInt32.toNat_ofNat']
      omega
    rw [← hshift, misaligned, if_pos hij, hback]
    exact shiftedUp_toNat (by omega) (by omega)

/-- **The divisor is aligned** with the leading bit of the dividend. -/
theorem aligned_toNat (hle : y.toNat.log2 ≤ x.toNat.log2) :
    (aligned x y).toNat = y.toNat * 2 ^ (x.toNat.log2 - y.toNat.log2) := by
  have hx := leading_lt (a := x)
  have hy := leading_lt (a := y)
  have hlogx := leading_upper (a := x)
  have hlogy := leading_upper (a := y)
  have hdistance := distance_eq (x := x) (y := y)
  have hwords := misaligned_toNat (y := y) hx hy
  have htop : x.toNat.log2 < 64 := log2_lt (by omega) x.toNat_lt
  have hfits : y.toNat * 2 ^ (x.toNat.log2 - y.toNat.log2) < 2 ^ 64 := by
    calc
      y.toNat * 2 ^ (x.toNat.log2 - y.toNat.log2)
          < 2 ^ (y.toNat.log2 + 1) * 2 ^ (x.toNat.log2 - y.toNat.log2) :=
        Nat.mul_lt_mul_of_pos_right Nat.lt_log2_self (Nat.two_pow_pos _)
      _ = 2 ^ (x.toNat.log2 + 1) := by
        rw [← pow_add]
        congr 1
        omega
      _ ≤ 2 ^ 64 := Nat.pow_le_pow_right Nat.two_pos htop
  have hupperx := upper_eq (a := x)
  have huppery := upper_eq (a := y)
  rw [aligned]
  by_cases hnear : distance x y < 32
  · -- the shift within a word is the whole of it
    have hshift : (((x.leading : ℤ) - y.leading) % 32).toNat = x.toNat.log2 - y.toNat.log2 := by
      omega
    rw [if_pos hnear, hwords, hshift, Nat.mod_eq_of_lt hfits]
  · -- the divisor has one word only, and it becomes the high one
    have hshift : (((x.leading : ℤ) - y.leading) % 32).toNat + 32 =
        x.toNat.log2 - y.toNat.log2 := by
      omega
    rw [← hshift, pow_add, ← Nat.mul_assoc] at hfits ⊢
    rw [if_neg hnear, TdUint64.toNat, Limbs.value, UInt32.toNat_zero, TdUint64.lowPart_toNat,
      hwords]
    omega

theorem zero_toNat : TdUint64.zero.toNat = 0 := @uint32ToUint64_toNat 0

theorem toNat_pos (ha : a ≠ .zero) : 0 < a.toNat := by
  rw [Nat.pos_iff_ne_zero]
  intro hzero
  rw [TdUint64.toNat, Limbs.value, Nat.add_eq_zero_iff, Nat.mul_eq_zero] at hzero
  obtain ⟨hhigh, hlow⟩ := hzero
  have hhigh' : a.highPart = 0 := UInt32.toNat.inj (hhigh.resolve_right (by decide))
  have hlow' : a.lowPart = 0 := UInt32.toNat.inj hlow
  refine ha ?_
  show TdUint64.mk a.highPart a.lowPart = _
  rw [hhigh', hlow', TdUint64.zero]

/-- **The emulated division is exact.** -/
theorem uint64DivMod_toNat (hy : y ≠ .zero) :
    (uint64DivMod x y).1.toNat = x.toNat / y.toNat ∧
      (uint64DivMod x y).2.toNat = x.toNat % y.toNat := by
  have hdistance := distance_eq (x := x) (y := y)
  have hpos : 0 < y.toNat := toNat_pos hy
  rw [uint64DivMod_of_ne_zero hy]
  dsimp only
  by_cases hle : y.toNat.log2 ≤ x.toNat.log2
  · have hturns : (distance x y + 1).toNat = x.toNat.log2 - y.toNat.log2 + 1 := by omega
    have hstart : DivModState.Is ⟨x, aligned x y, .zero⟩
        ⟨x.toNat, y.toNat * 2 ^ (x.toNat.log2 - y.toNat.log2), 0⟩ :=
      ⟨rfl, aligned_toNat hle, zero_toNat.trans (Nat.zero_mod _).symm⟩
    have hlt : x.toNat < y.toNat * 2 ^ (x.toNat.log2 - y.toNat.log2 + 1) := by
      calc
        x.toNat < 2 ^ (x.toNat.log2 + 1) := Nat.lt_log2_self
        _ = 2 ^ y.toNat.log2 * 2 ^ (x.toNat.log2 - y.toNat.log2 + 1) := by
          rw [← pow_add, ← Nat.add_assoc, Nat.add_sub_cancel' hle]
        _ ≤ y.toNat * 2 ^ (x.toNat.log2 - y.toNat.log2 + 1) :=
          Nat.mul_le_mul_right _ (Nat.log2_self_le (Nat.pos_iff_ne_zero.mp hpos))
    obtain ⟨hrest, hquotient⟩ := turns_spec (z := 0) hpos hlt
    have hend := hstart.turns (k := x.toNat.log2 - y.toNat.log2 + 1)
    rw [hturns, hend.x, hend.z, hrest, hquotient, Nat.zero_mul, Nat.zero_add]
    exact ⟨Nat.mod_eq_of_lt (lt_of_le_of_lt (Nat.div_le_self ..) x.toNat_lt), rfl⟩
  · -- the loop is not entered
    have hlt : x.toNat < y.toNat := by
      by_contra hnot
      refine hle ?_
      rw [Nat.log2_eq_log_two, Nat.log2_eq_log_two]
      exact Nat.log_mono_right (Nat.le_of_not_lt hnot)
    have hturns : (distance x y + 1).toNat = 0 := by omega
    rw [hturns, Nat.div_eq_of_lt hlt, Nat.mod_eq_of_lt hlt]
    exact ⟨zero_toNat, rfl⟩

/-! ### The loop as it is written -/

/-- `while (n-- >= 0)`, for no more than `fuel` tests. -/
def divModWhile : ℕ → ℤ → DivModState → Option DivModState
  | 0, _, _ => none
  | fuel + 1, n, s => if 0 ≤ n then divModWhile fuel (n - 1) (divModTurn s) else some s

/-- `Uint64DivMod` with the loop. -/
def uint64DivModWhile (fuel : ℕ) (x y : TdUint64) : Option (TdUint64 × TdUint64) :=
  if y = .zero then some (if x = .zero then .zero else .min, .zero)
  else (divModWhile fuel (distance x y) ⟨x, aligned x y, .zero⟩).map fun s => (s.z, s.x)

/-- **The loop ends** after as many turns as there are numbers from `0` to `n`. -/
theorem divModWhile_eq {fuel : ℕ} {n : ℤ} (h : (n + 1).toNat < fuel) :
    divModWhile fuel n s = some (divModTurn^[(n + 1).toNat] s) := by
  induction fuel generalizing n s with
  | zero => exact absurd h (Nat.not_lt_zero _)
  | succ fuel ih =>
    rw [divModWhile]
    by_cases hn : 0 ≤ n
    · have hturns : (n + 1).toNat = (n - 1 + 1).toNat + 1 := by omega
      rw [if_pos hn, ih (by omega), hturns, Function.iterate_succ_apply]
    · have hturns : (n + 1).toNat = 0 := by omega
      rw [if_neg hn, hturns, Function.iterate_zero_apply]

theorem distance_lt : (distance x y + 1).toNat < 65 := by
  have hlog : x.toNat.log2 < 64 := log2_lt (by omega) x.toNat_lt
  rw [distance_eq]
  omega

theorem uint64DivModWhile_eq {fuel : ℕ} (h : 65 ≤ fuel) :
    uint64DivModWhile fuel x y = some (uint64DivMod x y) := by
  rw [uint64DivModWhile]
  by_cases hy : y = .zero
  · rw [if_pos hy, uint64DivMod, if_pos hy]
  · rw [if_neg hy, divModWhile_eq (lt_of_lt_of_le distance_lt h), uint64DivMod_of_ne_zero hy]
    rfl

/-- **The emulated division ends and is exact**: it takes no more than 65 tests.  Divided by zero,
a number gives 2^63, and zero gives zero. -/
theorem uint64DivModWhile_spec (x y : TdUint64) : ∃ q r : TdUint64,
    (∀ fuel, uint64DivModWhile (65 + fuel) x y = some (q, r)) ∧
      (y ≠ .zero → q.toNat = x.toNat / y.toNat ∧
        (r.toNat : ℤ) = (x.toNat : ℤ) - q.toNat * y.toNat ∧ r.toNat < y.toNat) ∧
      (y = .zero → q.toNat = (if x = .zero then 0 else 2 ^ 63) ∧ r.toNat = 0) := by
  refine ⟨(uint64DivMod x y).1, (uint64DivMod x y).2,
    fun fuel => uint64DivModWhile_eq (Nat.le_add_right 65 fuel), fun hy => ?_, fun hy => ?_⟩
  · obtain ⟨hquotient, hrest⟩ := uint64DivMod_toNat (x := x) hy
    have hsplit := Nat.mod_add_div' x.toNat y.toNat
    rw [hquotient, hrest]
    refine ⟨rfl, ?_, Nat.mod_lt _ (toNat_pos hy)⟩
    rw [eq_sub_iff_add_eq]
    exact_mod_cast hsplit
  · rw [uint64DivMod, if_pos hy]
    refine ⟨?_, zero_toNat⟩
    split
    case isTrue => exact zero_toNat
    case isFalse => rfl

end Gptp
