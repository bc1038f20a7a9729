/-
Byte-addressed memory.

A memory is a total function from addresses to octets; the operations are single
stores, big-endian stores and loads of two octets, filling a range, storing a
list of octets, and copying a range upwards or downwards.

* `Holds m a bs` — the octets `bs` lie in memory from address `a` on;
* `copyUp_apply`, `copyDown_apply` — what a copy loop leaves at each address, for
  the overlaps that its direction allows;
* `Holds.insert` — moving the tail of a region up by one and storing an octet in
  the gap inserts that octet into the list.
-/
import Mathlib.Tactic

namespace Octets

/-- A memory of octets. -/
abbrev Mem := ℕ → UInt8

variable {m m' : Mem} {a b k n v : ℕ} {x : UInt8} {xs ys zs bs : List UInt8}

/-- Store one octet. -/
def put (m : Mem) (a : ℕ) (x : UInt8) : Mem := fun k => if k = a then x else m k

@[simp] theorem put_same : put m a x a = x := if_pos rfl

@[simp] theorem put_other (h : k ≠ a) : put m a x k = m k := if_neg h

/-- Store the low sixteen bits of `v`, high octet first. -/
def put2 (m : Mem) (a v : ℕ) : Mem := put (put m a (UInt8.ofNat (v / 256))) (a + 1) (UInt8.ofNat v)

/-- Store the low thirty-two bits of `v`, highest octet first. -/
def put4 (m : Mem) (a v : ℕ) : Mem := put2 (put2 m a (v / 65536)) (a + 2) v

/-- Load sixteen bits, high octet first. -/
def get2 (m : Mem) (a : ℕ) : ℕ := (m a).toNat * 256 + (m (a + 1)).toNat

/-- Store octets one after another. -/
def putList (m : Mem) (a : ℕ) : List UInt8 → Mem
  | [] => m
  | x :: xs => putList (put m a x) (a + 1) xs

/-- Store `n` copies of `x`. -/
def fill (m : Mem) (a : ℕ) (x : UInt8) (n : ℕ) : Mem := putList m a (List.replicate n x)

theorem putList_of_lt : ∀ {xs : List UInt8} {m : Mem} {a : ℕ}, k < a → putList m a xs k = m k := by
  intro xs
  induction xs with
  | nil => intro m a _; rfl
  | cons x xs ih =>
    intro m a h
    rw [putList, ih (by omega), put_other (by omega)]

theorem putList_of_ge : ∀ {xs : List UInt8} {m : Mem} {a : ℕ}, a + xs.length ≤ k →
    putList m a xs k = m k := by
  intro xs
  induction xs with
  | nil => intro m a _; rfl
  | cons x xs ih =>
    intro m a h
    rw [List.length_cons] at h
    rw [putList, ih (by omega), put_other (by omega)]

theorem putList_frame (h : k < a ∨ a + xs.length ≤ k) : putList m a xs k = m k := by
  rcases h with h | h
  · exact putList_of_lt h
  · exact putList_of_ge h

/-! ### Regions -/

/-- The octets of the list lie in memory from address `a` on. -/
def Holds (m : Mem) (a : ℕ) : List UInt8 → Prop
  | [] => True
  | x :: xs => m a = x ∧ Holds m (a + 1) xs

@[simp] theorem holds_nil : Holds m a [] := trivial

theorem holds_cons : Holds m a (x :: xs) ↔ m a = x ∧ Holds m (a + 1) xs := Iff.rfl

theorem holds_append : ∀ {xs : List UInt8} {a : ℕ},
    Holds m a (xs ++ ys) ↔ Holds m a xs ∧ Holds m (a + xs.length) ys := by
  intro xs
  induction xs with
  | nil => intro a; simp [Holds]
  | cons x xs ih =>
    intro a
    rw [List.cons_append, holds_cons, ih, holds_cons, List.length_cons, and_assoc,
      Nat.add_right_comm a 1, Nat.add_assoc a]

theorem holds_iff_getElem : ∀ {bs : List UInt8} {a : ℕ},
    Holds m a bs ↔ ∀ k, (h : k < bs.length) → m (a + k) = bs[k] := by
  intro bs
  induction bs with
  | nil => intro a; simp
  | cons x xs ih =>
    intro a
    rw [holds_cons, ih]
    constructor
    · rintro ⟨h0, hrest⟩ k hk
      rcases k with _ | k
      · exact h0
      · have := hrest k (by simpa using hk)
        rwa [show a + 1 + k = a + (k + 1) by omega] at this
    · intro h
      refine ⟨h 0 (by simp), fun k hk => ?_⟩
      have := h (k + 1) (by simpa using hk)
      rwa [show a + (k + 1) = a + 1 + k by omega] at this

theorem Holds.getElem (h : Holds m a bs) (hk : k < bs.length) : m (a + k) = bs[k] :=
  holds_iff_getElem.mp h k hk

/-- A region is read from the addresses it covers only, wherever they are copied to. -/
theorem Holds.moved (h : Holds m a bs) (heq : ∀ k < bs.length, m' (b + k) = m (a + k)) :
    Holds m' b bs := by
  rw [holds_iff_getElem]
  intro k hk
  rw [heq k hk]
  exact h.getElem hk

/-- A store just past `xs` replaces the octet that follows it. -/
theorem Holds.put_mid {y : UInt8} (h : Holds m a (xs ++ y :: ys)) (hb : b = a + xs.length) :
    Holds (put m b x) a (xs ++ x :: ys) := by
  subst hb
  rw [holds_append, holds_cons] at h ⊢
  refine ⟨h.1.moved fun k hk => put_other (by omega), put_same, ?_⟩
  exact h.2.2.moved fun k _ => put_other (by omega)

theorem Holds.read_mid {y : UInt8} (h : Holds m a (xs ++ y :: ys)) (hb : b = a + xs.length) :
    m b = y := by
  rw [hb]
  exact (holds_append.mp h).2.1

theorem holds_putList : Holds (putList m a bs) a bs := by
  have h : ∀ {bs : List UInt8} {m : Mem} {a : ℕ}, Holds (putList m a bs) a bs := by
    intro bs
    induction bs with
    | nil => intro m a; trivial
    | cons x bs ih =>
      intro m a
      refine ⟨?_, ih⟩
      rw [putList, putList_of_lt (by omega), put_same]
  exact h

/-- A region is left alone by what is stored elsewhere. -/
theorem Holds.frame (h : Holds m a bs) (heq : ∀ k, a ≤ k → k < a + bs.length → m' k = m k) :
    Holds m' a bs :=
  h.moved fun k hk => heq (a + k) (by omega) (by omega)

/-! Stores outside a region. -/

theorem Holds.put_off (h : Holds m a bs) (hb : b < a ∨ a + bs.length ≤ b) :
    Holds (put m b x) a bs :=
  h.frame fun k _ _ => put_other (by omega)

theorem Holds.put2_off (h : Holds m a bs) (hb : b + 2 ≤ a ∨ a + bs.length ≤ b) :
    Holds (put2 m b v) a bs :=
  (h.put_off (by omega)).put_off (by omega)

theorem Holds.put4_off (h : Holds m a bs) (hb : b + 4 ≤ a ∨ a + bs.length ≤ b) :
    Holds (put4 m b v) a bs :=
  (h.put2_off (by omega)).put2_off (by omega)

theorem Holds.putList_off (h : Holds m a bs) (hb : b + xs.length ≤ a ∨ a + bs.length ≤ b) :
    Holds (putList m b xs) a bs :=
  h.frame fun _ _ _ => putList_frame (by omega)

/-- Writing over a part of a region. -/
theorem Holds.replace (h : Holds m a (xs ++ ys ++ zs)) (hlen : ys.length = bs.length)
    (hb : b = a + xs.length) (hnew : Holds m' b bs)
    (hout : ∀ k, k < b ∨ b + bs.length ≤ k → m' k = m k) : Holds m' a (xs ++ bs ++ zs) := by
  rw [holds_append, holds_append] at h ⊢
  simp only [List.length_append] at h ⊢
  refine ⟨⟨h.1.1.frame fun k _ hk => hout k (by omega), hb ▸ hnew⟩, ?_⟩
  have hzs := h.2.frame fun k hk _ => hout k (by omega)
  rwa [hlen] at hzs

/-- The octets of sixteen bits, high octet first. -/
def octets2 (v : ℕ) : List UInt8 := [UInt8.ofNat (v / 256), UInt8.ofNat v]

@[simp] theorem length_octets2 : (octets2 v).length = 2 := rfl

theorem holds_put2 : Holds (put2 m a v) a (octets2 v) :=
  ⟨by rw [put2, put_other (by omega), put_same], by rw [put2, put_same], trivial⟩

theorem holds_put4 : Holds (put4 m a v) a (octets2 (v / 65536) ++ octets2 v) :=
  holds_append.mpr ⟨holds_put2.put2_off (by simp), holds_put2⟩

/-- Storing two octets over the two that follow `xs`. -/
theorem Holds.put2_mid {y z : UInt8} (h : Holds m a (xs ++ y :: z :: ys))
    (hb : b = a + xs.length) :
    Holds (put2 m b v) a (xs ++ UInt8.ofNat (v / 256) :: UInt8.ofNat v :: ys) := by
  have h1 := h.put_mid (x := UInt8.ofNat (v / 256)) hb
  have h1' : Holds (put m b (UInt8.ofNat (v / 256))) a
      ((xs ++ [UInt8.ofNat (v / 256)]) ++ z :: ys) := by
    simpa using h1
  have h2 := h1'.put_mid (b := b + 1) (x := UInt8.ofNat v) (by simp; omega)
  simpa [put2] using h2

theorem put2_of_lt (h : k < b) : put2 m b v k = m k := by
  rw [put2, put_other (by omega), put_other (by omega)]

theorem put2_of_ge (h : b + 2 ≤ k) : put2 m b v k = m k := by
  rw [put2, put_other (by omega), put_other (by omega)]

/-- Sixteen bits laid out high octet first are loaded back. -/
theorem Holds.get2 (h : Holds m a (UInt8.ofNat (v / 256) :: UInt8.ofNat v :: ys))
    (hv : v < 65536) : get2 m a = v := by
  obtain ⟨h1, h2, -⟩ := h
  rw [Octets.get2, h1, h2, UInt8.toNat_ofNat', UInt8.toNat_ofNat']
  omega

/-! ### Copying -/

/-- Copy `n` octets from `src` to `dest`, lowest address first. -/
def copyUp (m : Mem) (dest src : ℕ) : ℕ → Mem
  | 0 => m
  | n + 1 => copyUp (put m dest (m src)) (dest + 1) (src + 1) n

/-- Copy `n` octets from `src` to `dest`, highest address first. -/
def copyDown (m : Mem) (dest src : ℕ) : ℕ → Mem
  | 0 => m
  | n + 1 => copyDown (put m (dest + n) (m (src + n))) dest src n

/-- Copying upwards is right unless the destination starts inside the source. -/
theorem copyUp_apply : ∀ {n : ℕ} {m : Mem} {dest src : ℕ}, dest ≤ src ∨ src + n ≤ dest →
    ∀ k, copyUp m dest src n k = if dest ≤ k ∧ k < dest + n then m (src + (k - dest)) else m k := by
  intro n
  induction n with
  | zero =>
    intro m dest src _ k
    rw [if_neg (by omega), copyUp]
  | succ n ih =>
    intro m dest src h k
    rw [copyUp, ih (by omega)]
    by_cases hk : dest + 1 ≤ k ∧ k < dest + 1 + n
    · rw [if_pos hk, if_pos (by omega), put_other (by omega)]
      congr 1
      omega
    · rw [if_neg hk]
      by_cases hd : k = dest
      · subst hd
        rw [put_same, if_pos (by omega), Nat.sub_self, Nat.add_zero]
      · rw [put_other hd, if_neg (by omega)]

/-- Copying downwards is right unless the source starts inside the destination. -/
theorem copyDown_apply : ∀ {n : ℕ} {m : Mem} {dest src : ℕ}, src ≤ dest ∨ dest + n ≤ src →
    ∀ k, copyDown m dest src n k =
      if dest ≤ k ∧ k < dest + n then m (src + (k - dest)) else m k := by
  intro n
  induction n with
  | zero =>
    intro m dest src _ k
    rw [if_neg (by omega), copyDown]
  | succ n ih =>
    intro m dest src h k
    rw [copyDown, ih (by omega)]
    by_cases hk : dest ≤ k ∧ k < dest + n
    · rw [if_pos hk, if_pos (by omega), put_other (by omega)]
    · rw [if_neg hk]
      by_cases hd : k = dest + n
      · subst hd
        rw [put_same, if_pos (by omega), Nat.add_sub_cancel_left]
      · rw [put_other hd, if_neg (by omega)]

/-- Moving the octets from `b` on up by one and storing `x` at `b` inserts `x`. -/
theorem Holds.insert (h : Holds m a (xs ++ ys)) (hb : b = a + xs.length)
    (hmove : ∀ k, m' k = if b + 1 ≤ k ∧ k < b + 1 + ys.length then m (k - 1) else m k) :
    Holds (put m' b x) a (xs ++ x :: ys) := by
  rw [holds_append] at h
  rw [holds_append, holds_cons, ← hb]
  refine ⟨h.1.moved fun k hk => ?_, put_same, h.2.moved fun k hk => ?_⟩
  · rw [put_other (by omega), hmove, if_neg (by omega)]
  · rw [put_other (by omega), hmove, if_pos (by omega)]
    congr 1
    omega

end Octets
