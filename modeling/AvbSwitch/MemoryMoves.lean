/-
`mymemmove` with its loops.

The two ranges may overlap.  If the destination starts inside the source, the octets are copied
from the last one to the first, and otherwise from the first one to the last.  These are the
directions in which an octet is read before another is stored in its place.

* `copyUp_moves_iff`, `copyDown_moves_iff` — the overlaps that a direction is right for;
* `mymemmoveWhile_eq` — the loops end after `n` turns, and leave what `mymemmove` leaves;
* `mymemmove_moves` — the octets are moved whatever the overlap is, and nothing else changes.
-/
import AvbSwitch.Loops
import AvbSwitch.SendBuffer

namespace Msrp

open Loops Octets

variable {m m' : Mem} {dest src n k d r a b fuel : ℕ}

/-- The `n` octets at `src` are at `dest` afterwards, and nothing else has changed. -/
structure Moves (m m' : Mem) (dest src n : ℕ) : Prop where
  moved : ∀ k < n, m' (dest + k) = m (src + k)
  frame : ∀ k, k < dest ∨ dest + n ≤ k → m' k = m k

theorem moves_of_apply
    (h : ∀ k, m' k = if dest ≤ k ∧ k < dest + n then m (src + (k - dest)) else m k) :
    Moves m m' dest src n where
  moved := by
    intro k hk
    rw [h, if_pos (by omega), Nat.add_sub_cancel_left]
  frame := by
    intro k hk
    rw [h, if_neg (by omega)]

/-- All octets are zero but one. -/
def oneAt (a : ℕ) : Mem := put (fun _ => 0) a 1

theorem oneAt_ne (h : b ≠ a) : oneAt a a ≠ oneAt a b := by
  rw [oneAt, put_same, put_other h]
  decide

/-! ### The two directions -/

/-- A copy upwards leaves what is below it, even where it goes wrong. -/
theorem copyUp_of_lt (h : k < dest) : copyUp m dest src n k = m k := by
  induction n generalizing m dest src with
  | zero => rfl
  | succ n ih => rw [copyUp, ih (by omega), put_other (by omega)]

theorem copyUp_add :
    copyUp m dest src (a + b) = copyUp (copyUp m dest src a) (dest + a) (src + a) b := by
  induction a generalizing m dest src with
  | zero => rw [Nat.zero_add, copyUp, Nat.add_zero, Nat.add_zero]
  | succ a ih =>
    rw [Nat.succ_add, copyUp, copyUp, ih, Nat.add_assoc, Nat.add_assoc, Nat.add_comm 1]

/-- Where the destination starts inside the source, the first octet is copied a second time. -/
theorem copyUp_overlap (hd : 0 < d) :
    copyUp m (src + d) src (d + (r + 1)) (src + d + d) = m src := by
  have hfirst := @copyUp_apply d m (src + d) src (Or.inr le_rfl) (src + d)
  rw [if_pos (by omega), Nat.sub_self, Nat.add_zero] at hfirst
  rw [copyUp_add, copyUp, copyUp_of_lt (by omega), put_same, hfirst]

/-- **Upwards** is right unless the destination starts inside the source. -/
theorem copyUp_moves_iff :
    (∀ m, Moves m (copyUp m dest src n) dest src n) ↔ dest ≤ src ∨ src + n ≤ dest := by
  constructor
  · intro h
    by_contra hinside
    obtain ⟨d, rfl⟩ := Nat.exists_eq_add_of_lt (show src < dest by omega)
    obtain ⟨r, rfl⟩ := Nat.exists_eq_add_of_lt (show d + 1 < n by omega)
    have hmoved := (h (oneAt src)).moved (d + 1) (by omega)
    have hoverlap : copyUp (oneAt src) (src + (d + 1)) src (d + 1 + (r + 1))
        (src + (d + 1) + (d + 1)) = oneAt src src := copyUp_overlap (Nat.succ_pos d)
    exact oneAt_ne (by omega) (hoverlap.symm.trans hmoved)
  · intro h m
    exact moves_of_apply (copyUp_apply h)

/-- A copy downwards leaves what is above it. -/
theorem copyDown_of_ge (h : dest + n ≤ k) : copyDown m dest src n k = m k := by
  induction n generalizing m with
  | zero => rfl
  | succ n ih => rw [copyDown, ih (by omega), put_other (by omega)]

theorem copyDown_add :
    copyDown m dest src (a + b) = copyDown (copyDown m (dest + a) (src + a) b) dest src a := by
  induction b generalizing m with
  | zero => rfl
  | succ b ih => rw [← Nat.add_assoc, copyDown, ih, copyDown, Nat.add_assoc, Nat.add_assoc]

/-- Where the source starts inside the destination, the last octet is copied a second time. -/
theorem copyDown_overlap (hd : 0 < d) :
    copyDown m dest (dest + d) (r + 1 + d) (dest + r) = m (dest + d + r + d) := by
  have hlast := @copyDown_apply d m (dest + (r + 1)) (dest + d + (r + 1)) (Or.inr (by omega))
    (dest + d + r)
  rw [if_pos (by omega)] at hlast
  rw [copyDown_add, copyDown, copyDown_of_ge le_rfl, put_same, hlast]
  congr 1
  omega

/-- **Downwards** is right unless the source starts inside the destination. -/
theorem copyDown_moves_iff :
    (∀ m, Moves m (copyDown m dest src n) dest src n) ↔ src ≤ dest ∨ dest + n ≤ src := by
  constructor
  · intro h
    by_contra hinside
    obtain ⟨d, rfl⟩ := Nat.exists_eq_add_of_lt (show dest < src by omega)
    obtain ⟨r, rfl⟩ : ∃ r, n = r + 1 + (d + 1) := ⟨n - (d + 2), by omega⟩
    have hmoved := (h (oneAt (dest + (d + 1) + r + (d + 1)))).moved r (by omega)
    have hoverlap : copyDown (oneAt (dest + (d + 1) + r + (d + 1))) dest (dest + (d + 1))
        (r + 1 + (d + 1)) (dest + r) = oneAt (dest + (d + 1) + r + (d + 1)) _ :=
      copyDown_overlap (Nat.succ_pos d)
    exact oneAt_ne (by omega) (hoverlap.symm.trans hmoved)
  · intro h m
    exact moves_of_apply (copyDown_apply h)

/-! ### The loops as they are written -/

/-- The memory, and the variables of `mymemmove`: the pointers to the next octets, and how many are
left. -/
structure MoveState where
  mem : Mem
  s1 : ℤ
  s2 : ℤ
  n : ℤ

/-- An octet is copied, and the pointers go on by `d`, which is one or minus one. -/
def moveTurn (d : ℤ) (s : MoveState) : MoveState where
  mem := put s.mem s.s1.toNat (s.mem s.s2.toNat)
  s1 := s.s1 + d
  s2 := s.s2 + d
  n := s.n - 1

/-- `while (n--)`. -/
def moveWhile (d : ℤ) : ℕ → MoveState → Option MoveState := loop (fun s => s.n ≠ 0) (moveTurn d)

/-- `mymemmove` with its loops. -/
def mymemmoveWhile (fuel : ℕ) (m : Mem) (dest src : ℕ) (n : ℤ) : Option Mem :=
  let final :=
    if (src : ℤ) < dest ∧ (dest : ℤ) < src + n then
      moveWhile (-1) fuel ⟨m, dest + (n - 1), src + (n - 1), n⟩
    else moveWhile 1 fuel ⟨m, dest, src, n⟩
  final.map MoveState.mem

/-- What the loop upwards still has to do leaves `m'`. -/
def LeftUp (m' : Mem) (s : MoveState) : Prop :=
  ∃ dest src n : ℕ, s.s1 = dest ∧ s.s2 = src ∧ s.n = n ∧ copyUp s.mem dest src n = m'

/-- What the loop downwards still has to do leaves `m'`. -/
def LeftDown (m' : Mem) (s : MoveState) : Prop :=
  ∃ dest src n : ℕ, s.s1 = dest + (n - 1) ∧ s.s2 = src + (n - 1) ∧ s.n = n ∧
    copyDown s.mem dest src n = m'

theorem LeftUp.turn {s : MoveState} (h : LeftUp m' s) (hn : s.n ≠ 0) :
    LeftUp m' (moveTurn 1 s) := by
  obtain ⟨dest, src, n, hs1, hs2, hcount, hleft⟩ := h
  cases n with
  | zero => exact absurd hcount hn
  | succ n =>
    refine ⟨dest + 1, src + 1, n, ?_, ?_, ?_, ?_⟩
    · rw [moveTurn, hs1, Nat.cast_add_one]
    · rw [moveTurn, hs2, Nat.cast_add_one]
    · rw [moveTurn, hcount, Nat.cast_add_one, add_sub_cancel_right]
    · rw [← hleft, copyUp, moveTurn, hs1, hs2, Int.toNat_natCast, Int.toNat_natCast]

theorem LeftDown.turn {s : MoveState} (h : LeftDown m' s) (hn : s.n ≠ 0) :
    LeftDown m' (moveTurn (-1) s) := by
  obtain ⟨dest, src, n, hs1, hs2, hcount, hleft⟩ := h
  cases n with
  | zero => exact absurd hcount hn
  | succ n =>
    rw [Nat.cast_add_one, add_sub_cancel_right, ← Nat.cast_add] at hs1 hs2
    refine ⟨dest, src, n, ?_, ?_, ?_, ?_⟩
    · show s.s1 + -1 = _
      omega
    · show s.s2 + -1 = _
      omega
    · rw [moveTurn, hcount, Nat.cast_add_one, add_sub_cancel_right]
    · rw [← hleft, copyDown, moveTurn, hs1, hs2, Int.toNat_natCast, Int.toNat_natCast]

/-- Either loop ends, for there is one octet less to copy after each turn. -/
theorem moveWhile_ends {inv : MoveState → Prop} {s : MoveState} {d : ℤ}
    (hkeeps : ∀ s, inv s → s.n ≠ 0 → inv (moveTurn d s)) (hcount : ∀ s, inv s → 0 ≤ s.n)
    (hs : inv s) (hfuel : s.n.toNat < fuel) :
    ∃ s', moveWhile d fuel s = some s' ∧ inv s' ∧ s'.n = 0 := by
  have hdescends : ∀ s, inv s → s.n ≠ 0 → (moveTurn d s).n.toNat < s.n.toNat := by
    intro s hs hne
    have hpos := hcount s hs
    show (s.n - 1).toNat < s.n.toNat
    omega
  obtain ⟨s', hloop, hs', hend⟩ := loop_ends (fun s => s.n.toNat) hkeeps hdescends hs hfuel
  exact ⟨s', hloop, hs', not_not.mp hend⟩

theorem moveWhile_up (h : n < fuel) : ∃ s, moveWhile 1 fuel ⟨m, dest, src, n⟩ = some s ∧
    s.mem = copyUp m dest src n := by
  have hstart : LeftUp (copyUp m dest src n) ⟨m, dest, src, n⟩ := ⟨dest, src, n, rfl, rfl, rfl, rfl⟩
  have hcount : ∀ s, LeftUp (copyUp m dest src n) s → 0 ≤ s.n := by
    rintro s ⟨_, _, k, -, -, hk, -⟩
    omega
  obtain ⟨s, hloop, ⟨dest', src', k, -, -, hk, hleft⟩, hend⟩ :=
    moveWhile_ends (fun s => LeftUp.turn) hcount hstart h
  refine ⟨s, hloop, ?_⟩
  have hzero : k = 0 := by omega
  rw [← hleft, hzero, copyUp]

theorem moveWhile_down (h : n < fuel) :
    ∃ s, moveWhile (-1) fuel ⟨m, dest + (n - 1), src + (n - 1), n⟩ = some s ∧
      s.mem = copyDown m dest src n := by
  have hstart : LeftDown (copyDown m dest src n) ⟨m, dest + (n - 1), src + (n - 1), n⟩ :=
    ⟨dest, src, n, rfl, rfl, rfl, rfl⟩
  have hcount : ∀ s, LeftDown (copyDown m dest src n) s → 0 ≤ s.n := by
    rintro s ⟨_, _, k, -, -, hk, -⟩
    omega
  obtain ⟨s, hloop, ⟨dest', src', k, -, -, hk, hleft⟩, hend⟩ :=
    moveWhile_ends (fun s => LeftDown.turn) hcount hstart h
  refine ⟨s, hloop, ?_⟩
  have hzero : k = 0 := by omega
  rw [← hleft, hzero, copyDown]

/-- **The loops end**, and leave what `mymemmove` leaves. -/
theorem mymemmoveWhile_eq (h : n < fuel) :
    mymemmoveWhile fuel m dest src n = some (mymemmove m dest src n) := by
  have hinside : ((src : ℤ) < dest ∧ (dest : ℤ) < src + n) ↔ src < dest ∧ dest < src + n := by
    omega
  rw [mymemmoveWhile, mymemmove]
  by_cases hdown : src < dest ∧ dest < src + n
  · obtain ⟨s, hloop, hmem⟩ := @moveWhile_down m dest src n fuel h
    rw [if_pos (hinside.mpr hdown), if_pos hdown, hloop, Option.map_some, hmem]
  · obtain ⟨s, hloop, hmem⟩ := @moveWhile_up m dest src n fuel h
    rw [if_neg (mt hinside.mp hdown), if_neg hdown, hloop, Option.map_some, hmem]

/-- The direction is one that is right. -/
theorem mymemmove_right : Moves m (mymemmove m dest src n) dest src n := by
  rw [mymemmove]
  by_cases hdown : src < dest ∧ dest < src + n
  · rw [if_pos hdown]
    exact copyDown_moves_iff.mpr (Or.inl hdown.1.le) m
  · rw [if_neg hdown]
    exact copyUp_moves_iff.mpr (by omega) m

/-- **`mymemmove` ends and moves the octets**, for all ranges and however they overlap. -/
theorem mymemmove_moves (m : Mem) (dest src : ℕ) (n : ℤ) (hn : 0 ≤ n) :
    ∃ m', (∀ fuel, n.toNat < fuel → mymemmoveWhile fuel m dest src n = some m') ∧
      Moves m m' dest src n.toNat := by
  obtain ⟨n, rfl⟩ := Int.eq_ofNat_of_zero_le hn
  rw [Int.toNat_natCast]
  exact ⟨mymemmove m dest src n, fun fuel hfuel => mymemmoveWhile_eq hfuel, mymemmove_right⟩

/-- Three octets go up by one, as where an event is put in between. -/
theorem mymemmove_moves_three :
    ∃ m', (∀ fuel, (3 : ℤ).toNat < fuel → mymemmoveWhile fuel (oneAt 2) 1 0 3 = some m') ∧
      Moves (oneAt 2) m' 1 0 (3 : ℤ).toNat :=
  mymemmove_moves (oneAt 2) 1 0 3 (by decide)

end Msrp
