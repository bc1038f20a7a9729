/-
Octets compared from the first one on.

`memcmp` goes through two ranges of one length and stops at the first octet in
which they differ.  For a number stored with its highest octet first this is the
comparison of the numbers:

* `memcmp_eq_compare` — `memcmp xs ys = compare (value xs) (value ys)`;
* `value_injective` — octets of one length are determined by their number;
* `value_lt_iff_lex` — the order of the numbers is the lexicographic one.
-/
import Mathlib.Tactic

namespace OctetOrder

variable {x y : UInt8} {xs ys : List UInt8}

/-- The first difference of two lists of octets decides. -/
def memcmp : List UInt8 → List UInt8 → Ordering
  | x :: xs, y :: ys => if x < y then .lt else if y < x then .gt else memcmp xs ys
  | _, _ => .eq

/-- The number that octets stand for, highest octet first. -/
def value : List UInt8 → ℕ
  | [] => 0
  | x :: xs => x.toNat * 256 ^ xs.length + value xs

@[simp] theorem value_nil : value [] = 0 := rfl

theorem value_cons : value (x :: xs) = x.toNat * 256 ^ xs.length + value xs := rfl

theorem value_lt : value xs < 256 ^ xs.length := by
  induction xs with
  | nil => exact Nat.one_pos
  | cons x xs ih =>
    have hx : x.toNat + 1 ≤ 256 := x.toNat_lt
    calc value (x :: xs) = x.toNat * 256 ^ xs.length + value xs := value_cons
      _ < x.toNat * 256 ^ xs.length + 256 ^ xs.length := Nat.add_lt_add_left ih _
      _ = (x.toNat + 1) * 256 ^ xs.length := (Nat.succ_mul _ _).symm
      _ ≤ 256 * 256 ^ xs.length := Nat.mul_le_mul_right _ hx
      _ = 256 ^ (x :: xs).length := (Nat.pow_succ' ..).symm

theorem value_append : value (xs ++ ys) = value xs * 256 ^ ys.length + value ys := by
  induction xs with
  | nil => rw [List.nil_append, value_nil, Nat.zero_mul, Nat.zero_add]
  | cons x xs ih =>
    rw [List.cons_append, value_cons, value_cons, List.length_append, ih, Nat.pow_add]
    ring

/-- What comes first decides. -/
theorem le_of_value_append_lt {xs' ys' : List UInt8} (hlen : ys.length = ys'.length)
    (h : value (xs ++ ys) < value (xs' ++ ys')) : value xs ≤ value xs' := by
  by_contra hlt
  have hrest : value ys' < 256 ^ ys.length := hlen ▸ value_lt
  have hfirst : (value xs' + 1) * 256 ^ ys.length ≤ value xs * 256 ^ ys.length :=
    Nat.mul_le_mul_right _ (Nat.lt_of_not_le hlt)
  rw [Nat.succ_mul] at hfirst
  rw [value_append, value_append, ← hlen] at h
  omega

/-- A smaller first octet outweighs all that follow. -/
theorem value_lt_of_head_lt (hlen : xs.length = ys.length) (h : x < y) :
    value (x :: xs) < value (y :: ys) := by
  have hxy : x.toNat + 1 ≤ y.toNat := h
  calc value (x :: xs) < x.toNat * 256 ^ xs.length + 256 ^ xs.length :=
        Nat.add_lt_add_left value_lt _
    _ = (x.toNat + 1) * 256 ^ ys.length := by rw [hlen, Nat.succ_mul]
    _ ≤ y.toNat * 256 ^ ys.length := Nat.mul_le_mul_right _ hxy
    _ ≤ value (y :: ys) := Nat.le_add_right _ _

/-- **Comparing octets is comparing numbers.** -/
theorem memcmp_eq_compare (hlen : xs.length = ys.length) :
    memcmp xs ys = compare (value xs) (value ys) := by
  induction xs generalizing ys with
  | nil =>
    obtain rfl := List.length_eq_zero_iff.mp hlen.symm
    rfl
  | cons x xs ih =>
    obtain _ | ⟨y, ys⟩ := ys
    · exact absurd hlen (Nat.succ_ne_zero _)
    have hlen' : xs.length = ys.length := Nat.succ_injective hlen
    rcases lt_trichotomy x.toNat y.toNat with h | h | h
    · rw [memcmp, if_pos (UInt8.lt_iff_toNat_lt.mpr h)]
      exact (compare_lt_iff_lt.mpr (value_lt_of_head_lt hlen' h)).symm
    · -- equal heads: both numbers lose the same first summand
      obtain rfl := UInt8.toNat_inj.mp h
      rw [memcmp, if_neg (UInt8.lt_irrefl x), if_neg (UInt8.lt_irrefl x), ih hlen', value_cons,
        value_cons, hlen']
      rcases lt_trichotomy (value xs) (value ys) with hv | hv | hv
      · rw [compare_lt_iff_lt.mpr hv, compare_lt_iff_lt.mpr (Nat.add_lt_add_left hv _)]
      · rw [hv, compare_eq_iff_eq.mpr rfl, compare_eq_iff_eq.mpr rfl]
      · rw [compare_gt_iff_gt.mpr hv, compare_gt_iff_gt.mpr (Nat.add_lt_add_left hv _)]
    · rw [memcmp, if_neg (UInt8.lt_asymm h), if_pos (UInt8.lt_iff_toNat_lt.mpr h)]
      exact (compare_gt_iff_gt.mpr (value_lt_of_head_lt hlen'.symm h)).symm

theorem value_injective (hlen : xs.length = ys.length) (h : value xs = value ys) : xs = ys := by
  induction xs generalizing ys with
  | nil => exact (List.length_eq_zero_iff.mp hlen.symm).symm
  | cons x xs ih =>
    obtain _ | ⟨y, ys⟩ := ys
    · exact absurd hlen (Nat.succ_ne_zero _)
    have hlen' : xs.length = ys.length := Nat.succ_injective hlen
    rcases lt_trichotomy x.toNat y.toNat with hxy | hxy | hxy
    · exact absurd h (value_lt_of_head_lt hlen' hxy).ne
    · obtain rfl := UInt8.toNat_inj.mp hxy
      rw [value_cons, value_cons, hlen'] at h
      rw [ih hlen' (Nat.add_left_cancel h)]
    · exact absurd h (value_lt_of_head_lt hlen'.symm hxy).ne'

theorem memcmp_eq_iff (hlen : xs.length = ys.length) : memcmp xs ys = .eq ↔ xs = ys := by
  rw [memcmp_eq_compare hlen, compare_eq_iff_eq]
  exact ⟨value_injective hlen, fun h => h ▸ rfl⟩

/-- The numbers are in the lexicographic order of the octets. -/
theorem value_lt_iff_lex (hlen : xs.length = ys.length) : value xs < value ys ↔ xs < ys := by
  induction xs generalizing ys with
  | nil =>
    obtain rfl := List.length_eq_zero_iff.mp hlen.symm
    simp
  | cons x xs ih =>
    obtain _ | ⟨y, ys⟩ := ys
    · exact absurd hlen (Nat.succ_ne_zero _)
    have hlen' : xs.length = ys.length := Nat.succ_injective hlen
    rw [List.cons_lt_cons_iff, ← ih hlen']
    rcases lt_trichotomy x.toNat y.toNat with h | h | h
    · exact iff_of_true (value_lt_of_head_lt hlen' h) (Or.inl (UInt8.lt_iff_toNat_lt.mpr h))
    · -- equal heads leave the rest to decide
      obtain rfl := UInt8.toNat_inj.mp h
      rw [value_cons, value_cons, hlen', Nat.add_lt_add_iff_left]
      simp
    · refine iff_of_false (value_lt_of_head_lt hlen'.symm h).not_gt ?_
      rintro (hlt | ⟨rfl, -⟩)
      · exact absurd (UInt8.lt_iff_toNat_lt.mp hlt) h.not_gt
      · exact absurd h (lt_irrefl _)

end OctetOrder
