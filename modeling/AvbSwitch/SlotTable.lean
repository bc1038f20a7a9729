/-
Tables of slots.

A table is a function from slots to entries.  An entry may be in use, and it has a key:

* `contents` — what a table holds, the entries in use with their slots;
* `UniqueKeys` — no two entries in use have the same key; `UniqueKeys.insert` and
  `UniqueKeys.release` are the two ways in which a slot is written;
* `contents_insert_release` — what is put into a free slot and then released leaves
  nothing behind.
-/
import Mathlib.Logic.Function.Basic
import Mathlib.Data.List.FinRange

namespace Slots

variable {ι κ ε : Type*} {used : ε → Bool} {key : ε → κ} {t : ι → ε} {i j : ι}
  {e e' : ε}

/-- What the table holds. -/
def contents (used : ε → Bool) (t : ι → ε) (i : ι) : Option ε :=
  if used (t i) then some (t i) else none

theorem contents_of_unused (h : used (t i) = false) : contents used t i = none := by
  rw [contents, h]
  rfl

theorem contents_of_used (h : used (t i) = true) : contents used t i = some (t i) := if_pos h

/-- No two entries in use have the same key. -/
def UniqueKeys (used : ε → Bool) (key : ε → κ) (t : ι → ε) : Prop :=
  ∀ i j, used (t i) = true → used (t j) = true → key (t i) = key (t j) → i = j

theorem UniqueKeys.of_unused (h : ∀ i, used (t i) = false) : UniqueKeys used key t := by
  intro i _ hi
  exact absurd ((h i).symm.trans hi) Bool.false_ne_true

/-! ### Writing a slot -/

variable [DecidableEq ι]

/-- An entry that is put into a free slot and then released leaves nothing behind. -/
theorem contents_insert_release (hfree : used (t i) = false) (hreleased : used e' = false) :
    contents used (Function.update (Function.update t i e) i e') = contents used t := by
  funext k
  rw [Function.update_idem]
  by_cases hk : k = i
  · subst hk
    rw [contents_of_unused hfree, contents_of_unused]
    rw [Function.update_self, hreleased]
  · rw [contents, contents, Function.update_of_ne hk]

/-- Writing a free slot leaves the entries in use alone. -/
theorem update_of_used (hfree : used (t i) = false) (hused : used (t j) = true) :
    Function.update t i e j = t j := by
  refine Function.update_of_ne ?_ _ _
  rintro rfl
  exact Bool.false_ne_true (hfree.symm.trans hused)

/-- An entry with a new key keeps the keys unique. -/
theorem UniqueKeys.insert (h : UniqueKeys used key t)
    (hfresh : ∀ j, used (t j) = true → key (t j) ≠ key e) :
    UniqueKeys used key (Function.update t i e) := by
  intro a b ha hb hkey
  by_cases hai : a = i
  · by_cases hbi : b = i
    · exact hai.trans hbi.symm
    · -- the new entry and an old one
      rw [hai, Function.update_self, Function.update_of_ne hbi] at hkey
      rw [Function.update_of_ne hbi] at hb
      exact absurd hkey.symm (hfresh b hb)
  · by_cases hbi : b = i
    · rw [hbi, Function.update_self, Function.update_of_ne hai] at hkey
      rw [Function.update_of_ne hai] at ha
      exact absurd hkey (hfresh a ha)
    · rw [Function.update_of_ne hai] at ha hkey
      rw [Function.update_of_ne hbi] at hb hkey
      exact h a b ha hb hkey

/-- So does the release of an entry. -/
theorem UniqueKeys.release (h : UniqueKeys used key t) (hreleased : used e = false) :
    UniqueKeys used key (Function.update t i e) := by
  have hold : ∀ {a}, used (Function.update t i e a) = true → a ≠ i := by
    rintro a ha rfl
    rw [Function.update_self, hreleased] at ha
    exact Bool.false_ne_true ha
  intro a b ha hb hkey
  have hai := hold ha
  have hbi := hold hb
  rw [Function.update_of_ne hai] at ha hkey
  rw [Function.update_of_ne hbi] at hb hkey
  exact h a b ha hb hkey

/-! ### Searching -/

/-- A search comes to the one slot that meets the condition. -/
theorem find_finRange_eq_some {k : ℕ} {P : Fin k → Bool} {i : Fin k} (hi : P i = true)
    (hunique : ∀ j, P j = true → j = i) : (List.finRange k).find? P = some i := by
  rcases hfind : (List.finRange k).find? P with _ | j
  · exact absurd hi (List.find?_eq_none.mp hfind i (List.mem_finRange i))
  · rw [hunique j (List.find?_some hfind)]

end Slots
