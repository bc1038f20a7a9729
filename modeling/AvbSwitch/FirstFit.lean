/-
Pools that are searched for the first free entry.

A pool is a table of entries in memory, of which the first `size` are declared.  The loop
that looks for a free entry has a bound of its own, and what it comes across from `size` on
is whatever lies behind the table:

* `firstFree` — the entry that the loop stops at;
* `take` — the entry is written, and a pointer to it is returned; if there is none, then
  what is returned is given as `otherwise`;
* `Allocates` — what an allocation has to do;
* `take_allocates_iff` — when it does so.
-/
import Mathlib.Logic.Function.Basic
import Mathlib.Data.List.FinRange
import Mathlib.Data.List.Range
import Mathlib.Data.Nat.Find

namespace Pools

/-- A pointer: NULL, an entry of the table or of what lies behind it, or anything else. -/
inductive Pointer
  | null
  | entry (i : ℕ)
  | elsewhere
  deriving DecidableEq, Repr

variable {ε : Type*} {free : ε → Bool} {mark : ε → ε} {used : ε → Prop} {bound size i : ℕ}
  {otherwise : Pointer} {t : ℕ → ε}

/-- The first entry below `bound` that passes the test. -/
def firstFree (free : ε → Bool) (bound : ℕ) (t : ℕ → ε) : Option ℕ :=
  (List.range bound).find? fun i => free (t i)

/-- The entry that is found is written and returned. -/
def take (free : ε → Bool) (mark : ε → ε) (bound : ℕ) (otherwise : Pointer) (t : ℕ → ε) :
    (ℕ → ε) × Pointer :=
  match firstFree free bound t with
  | some i => (Function.update t i (mark (t i)), .entry i)
  | none => (t, otherwise)

/-- What an allocation has to do: the entry that it returns lies in the table, was unused
and is used now, the other entries are as they were, and NULL says that all are used. -/
structure Allocates (used : ε → Prop) (size : ℕ) (t : ℕ → ε) (r : (ℕ → ε) × Pointer) : Prop where
  entry : r.2 ≠ .null → ∃ i < size, r.2 = .entry i ∧ ¬ used (t i) ∧ used (r.1 i)
  others : ∀ j, r.2 ≠ .entry j → r.1 j = t j
  null_iff : r.2 = .null ↔ ∀ i < size, used (t i)

/-! ### The scan -/

theorem firstFree_eq_some_iff :
    firstFree free bound t = some i ↔
      i < bound ∧ free (t i) = true ∧ ∀ j < i, free (t j) = false := by
  rw [firstFree, List.find?_range_eq_some]
  constructor
  · rintro ⟨hi, hmem, hbefore⟩
    refine ⟨List.mem_range.mp hmem, hi, ?_⟩
    intro j hj
    simpa using hbefore j hj
  · rintro ⟨hlt, hi, hbefore⟩
    refine ⟨hi, List.mem_range.mpr hlt, ?_⟩
    intro j hj
    simpa using hbefore j hj

theorem firstFree_eq_none_iff :
    firstFree free bound t = none ↔ ∀ i < bound, free (t i) = false := by
  rw [firstFree, List.find?_range_eq_none]
  simp

/-- The scan of a table that is declared as long as the loop runs. -/
theorem firstFree_eq_find?_finRange {P : Fin bound → Bool} (h : ∀ i, P i = free (t i)) :
    firstFree free bound t = ((List.finRange bound).find? P).map Fin.val := by
  rw [firstFree, ← List.map_coe_finRange_eq_range, List.find?_map]
  congr 2
  funext i
  exact (h i).symm

theorem take_snd (h : otherwise = .null) :
    (take free mark bound otherwise t).2 = .entry i ↔ firstFree free bound t = some i := by
  cases hf : firstFree free bound t with
  | none =>
    rw [take, hf, h]
    exact iff_of_false Pointer.noConfusion (Option.some_ne_none i).symm
  | some k =>
    rw [take, hf]
    exact ⟨fun he => congrArg some (Pointer.entry.inj he),
      fun he => congrArg Pointer.entry (Option.some_inj.mp he)⟩

theorem take_of_some (h : firstFree free bound t = some i) :
    take free mark bound otherwise t = (Function.update t i (mark (t i)), .entry i) := by
  rw [take, h]

theorem take_of_none (h : firstFree free bound t = none) :
    take free mark bound otherwise t = (t, otherwise) := by
  rw [take, h]

/-! ### The allocation -/

/-- A scan that stops at an entry has to stop at an unused one of the table. -/
theorem allocates_of_some_iff (hmark : ∀ e, used (mark e))
    (h : firstFree free bound t = some i) :
    Allocates used size t (take free mark bound otherwise t) ↔ i < size ∧ ¬ used (t i) := by
  rw [take_of_some h]
  constructor
  · intro ha
    obtain ⟨k, hk, heq, hunused, -⟩ := ha.entry Pointer.noConfusion
    obtain rfl : i = k := Pointer.entry.inj heq
    exact ⟨hk, hunused⟩
  · rintro ⟨hi, hunused⟩
    refine ⟨?_, ?_, ?_⟩
    · intro _
      refine ⟨i, hi, rfl, hunused, ?_⟩
      show used (Function.update t i (mark (t i)) i)
      rw [Function.update_self]
      exact hmark _
    · intro j hj
      refine Function.update_of_ne ?_ _ _
      rintro rfl
      exact hj rfl
    · refine ⟨Pointer.noConfusion, ?_⟩
      intro hall
      exact absurd (hall i hi) hunused

/-- A scan that finds nothing has to return NULL. -/
theorem allocates_of_none_iff (hfree : ∀ e, ¬ used e → free e = true) (hsize : size ≤ bound)
    (h : firstFree free bound t = none) :
    Allocates used size t (take free mark bound otherwise t) ↔ otherwise = .null := by
  have hnone := firstFree_eq_none_iff.mp h
  -- every entry of the table was looked at, so that all of them are used
  have hall : ∀ i < size, used (t i) := by
    intro i hi
    by_contra hunused
    exact Bool.false_ne_true ((hnone i (hi.trans_le hsize)).symm.trans (hfree _ hunused))
  rw [take_of_none h]
  constructor
  · intro ha
    exact ha.null_iff.mpr hall
  · intro hnull
    refine ⟨?_, ?_, ?_⟩
    · intro hne
      exact absurd hnull hne
    · intro j _
      rfl
    · exact ⟨fun _ => hall, fun _ => hnull⟩

/-- When an allocation does what it has to: the first entry that passes the test is an
unused one of the table, or no entry below the bound passes it and NULL is returned. -/
theorem take_allocates_iff (hmark : ∀ e, used (mark e)) (hfree : ∀ e, ¬ used e → free e = true)
    (hsize : size ≤ bound) :
    Allocates used size t (take free mark bound otherwise t) ↔
      (∃ i < size, ¬ used (t i) ∧ ∀ j < i, free (t j) = false) ∨
        ((∀ i < bound, free (t i) = false) ∧ otherwise = .null) := by
  cases h : firstFree free bound t with
  | none =>
    have hnone := firstFree_eq_none_iff.mp h
    rw [allocates_of_none_iff hfree hsize h]
    constructor
    · intro hnull
      exact Or.inr ⟨hnone, hnull⟩
    · rintro (⟨i, hi, hunused, -⟩ | ⟨-, hnull⟩)
      · exact absurd ((hnone i (hi.trans_le hsize)).symm.trans (hfree _ hunused))
          Bool.false_ne_true
      · exact hnull
  | some i =>
    obtain ⟨hlt, hi, hbefore⟩ := firstFree_eq_some_iff.mp h
    rw [allocates_of_some_iff hmark h]
    constructor
    · rintro ⟨hsmall, hunused⟩
      exact Or.inl ⟨i, hsmall, hunused, hbefore⟩
    · rintro (⟨k, hk, hunused, hbefore'⟩ | ⟨hnone, -⟩)
      · -- both are the first free entry
        have hfirst : firstFree free bound t = some k :=
          firstFree_eq_some_iff.mpr ⟨hk.trans_le hsize, hfree _ hunused, hbefore'⟩
        obtain rfl : i = k := Option.some_inj.mp (h.symm.trans hfirst)
        exact ⟨hk, hunused⟩
      · exact absurd ((hnone i hlt).symm.trans hi) Bool.false_ne_true

/-- With a test that lets exactly the unused entries pass, one unused entry of the table is
enough. -/
theorem take_allocates_iff_of_exact (hmark : ∀ e, used (mark e))
    (hfree : ∀ e, free e = true ↔ ¬ used e) (hsize : size ≤ bound) :
    Allocates used size t (take free mark bound otherwise t) ↔
      (∃ i < size, ¬ used (t i)) ∨ ((∀ i < bound, used (t i)) ∧ otherwise = .null) := by
  have hbusy : ∀ e, free e = false ↔ used e := by
    intro e
    rw [← Bool.not_eq_true, hfree, not_not]
  rw [take_allocates_iff hmark (fun e => (hfree e).mpr) hsize]
  simp only [hbusy]
  refine or_congr_left ⟨?_, ?_⟩
  · rintro ⟨i, hi, hunused, -⟩
    exact ⟨i, hi, hunused⟩
  · intro hex
    classical
    -- the first of the unused entries
    obtain ⟨hlt, hunused⟩ := Nat.find_spec hex
    refine ⟨Nat.find hex, hlt, hunused, ?_⟩
    intro j hj
    by_contra hj'
    exact Nat.find_min hex hj ⟨hj.trans hlt, hj'⟩

end Pools
