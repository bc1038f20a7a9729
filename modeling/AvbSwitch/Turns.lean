/-
Loops that give each index of a list its turn.

An index that is active when its turn comes is acted on, and the others are passed over.
`visit` says which indices are acted on, in their order, and what becomes of the state:

* `visit_append` — the turns of two lists, one after the other;
* `visit_nil_iff` — nothing is acted on exactly where nothing is active;
* `visit_eq_iff` — two notions of being active, where what an action changes about the other
  indices does not matter for the difference between the two, act on the same indices exactly
  if they agree on all of them beforehand.
-/
import Mathlib.Data.List.Basic
import Mathlib.Data.List.Nodup

namespace Turns

variable {σ ι : Type*} {active active' : σ → ι → Bool} {act : σ → ι → Option σ} {s s' u : σ} {i : ι}
  {is l l' d : List ι}

/-- The indices that are acted on, and the state after the last turn. -/
def visit (active : σ → ι → Bool) (act : σ → ι → Option σ) : List ι → σ → Option (List ι × σ)
  | [], s => some ([], s)
  | i :: is, s =>
    if active s i then
      (act s i).bind fun u => (visit active act is u).map fun r => (i :: r.1, r.2)
    else visit active act is s

theorem visit_nil : visit active act [] s = some (d, s') ↔ d = [] ∧ s' = s := by
  rw [visit, Option.some_inj, Prod.mk.injEq]
  exact and_congr eq_comm eq_comm

theorem visit_cons_of_active (h : active s i = true) :
    visit active act (i :: is) s = some (d, s') ↔
      ∃ u d', act s i = some u ∧ visit active act is u = some (d', s') ∧ d = i :: d' := by
  rw [visit, if_pos h, Option.bind_eq_some_iff]
  constructor
  · rintro ⟨u, hu, hrest⟩
    obtain ⟨⟨d', v⟩, hvisit, heq⟩ := Option.map_eq_some_iff.mp hrest
    obtain ⟨hd, hv⟩ := Prod.mk.inj heq
    exact ⟨u, d', hu, by rw [hvisit, ← hv], hd.symm⟩
  · rintro ⟨u, d', hu, hvisit, rfl⟩
    exact ⟨u, hu, by rw [hvisit]; rfl⟩

theorem visit_cons_of_not (h : active s i = false) :
    visit active act (i :: is) s = visit active act is s := by
  rw [visit, if_neg (by rw [h]; exact Bool.false_ne_true)]

/-- The turns of a list and then those of another. -/
theorem visit_append : visit active act (l ++ l') s = some (d, s') ↔
    ∃ d₁ u d₂, visit active act l s = some (d₁, u) ∧ visit active act l' u = some (d₂, s') ∧
      d = d₁ ++ d₂ := by
  induction l generalizing s d with
  | nil =>
    constructor
    · intro h
      exact ⟨[], s, d, visit_nil.mpr ⟨rfl, rfl⟩, h, rfl⟩
    · rintro ⟨d₁, u, d₂, h₁, h₂, rfl⟩
      obtain ⟨rfl, rfl⟩ := visit_nil.mp h₁
      exact h₂
  | cons i l ih =>
    rw [List.cons_append]
    cases h : active s i with
    | true =>
      rw [visit_cons_of_active h]
      constructor
      · rintro ⟨v, d', hv, hvisit, rfl⟩
        obtain ⟨d₁, u, d₂, h₁, h₂, rfl⟩ := ih.mp hvisit
        exact ⟨i :: d₁, u, d₂, (visit_cons_of_active h).mpr ⟨v, d₁, hv, h₁, rfl⟩, h₂, rfl⟩
      · rintro ⟨d₁, u, d₂, h₁, h₂, rfl⟩
        obtain ⟨v, d', hv, hvisit, rfl⟩ := (visit_cons_of_active h).mp h₁
        exact ⟨v, d' ++ d₂, hv, ih.mpr ⟨d', u, d₂, hvisit, h₂, rfl⟩, rfl⟩
    | false =>
      rw [visit_cons_of_not h, visit_cons_of_not h]
      exact ih

/-- Only indices of the list are acted on, in its order. -/
theorem visit_sublist (h : visit active act l s = some (d, s')) : List.Sublist d l := by
  induction l generalizing s d with
  | nil =>
    obtain ⟨rfl, -⟩ := visit_nil.mp h
    exact List.Sublist.refl _
  | cons i l ih =>
    cases hi : active s i with
    | true =>
      obtain ⟨u, d', -, hvisit, rfl⟩ := (visit_cons_of_active hi).mp h
      exact (ih hvisit).cons_cons i
    | false =>
      rw [visit_cons_of_not hi] at h
      exact (ih h).cons i

/-- Nothing is acted on exactly where nothing is active. -/
theorem visit_nil_iff :
    visit active act l s = some ([], s') ↔ s' = s ∧ ∀ i ∈ l, active s i = false := by
  induction l with
  | nil =>
    rw [visit_nil]
    refine ⟨fun h => ⟨h.2, fun i hi => absurd hi List.not_mem_nil⟩, fun h => ⟨rfl, h.1⟩⟩
  | cons i l ih =>
    rw [List.forall_mem_cons]
    cases hi : active s i with
    | true =>
      rw [visit_cons_of_active hi]
      constructor
      · rintro ⟨u, d', -, -, hd⟩
        exact absurd hd (List.cons_ne_nil i d').symm
      · rintro ⟨-, hfalse, -⟩
        exact absurd hfalse.symm Bool.false_ne_true
    | false =>
      rw [visit_cons_of_not hi, ih]
      simp only [true_and]

/-! ### Two notions of being active -/

/-- An action on one index does not change whether the two notions agree on another. -/
def Stable (active active' : σ → ι → Bool) (act : σ → ι → Option σ) : Prop :=
  ∀ s u i j, act s i = some u → j ≠ i → (active u j = active' u j ↔ active s j = active' s j)

/-- If the same indices are acted on, the two agree beforehand on all of the list. -/
theorem agree_of_visit (hstable : Stable active active' act) (hl : l.Nodup)
    (h : visit active act l s = some (d, s')) (h' : visit active' act l s = some (d, u)) :
    ∀ i ∈ l, active s i = active' s i := by
  induction l generalizing s d with
  | nil => exact fun i hi => absurd hi List.not_mem_nil
  | cons i l ih =>
    obtain ⟨hi, hl⟩ := List.nodup_cons.mp hl
    -- an index that one of the two passes over is not in its list
    have hpassed : ∀ {act₁ act₂ : σ → ι → Bool} {w w' : σ}, act₁ s i = true → act₂ s i = false →
        visit act₁ act (i :: l) s = some (d, w) → visit act₂ act (i :: l) s = some (d, w') → False := by
      intro act₁ act₂ w w' h₁ h₂ hv₁ hv₂
      obtain ⟨_, d', -, -, rfl⟩ := (visit_cons_of_active h₁).mp hv₁
      rw [visit_cons_of_not h₂] at hv₂
      exact hi ((visit_sublist hv₂).subset List.mem_cons_self)
    rw [List.forall_mem_cons]
    cases hs : active s i with
    | true =>
      cases hs' : active' s i with
      | true =>
        obtain ⟨v, d', hv, hrest, rfl⟩ := (visit_cons_of_active hs).mp h
        obtain ⟨v', d'', hv', hrest', heq⟩ := (visit_cons_of_active hs').mp h'
        obtain rfl := Option.some_inj.mp (hv.symm.trans hv')
        obtain ⟨-, rfl⟩ := List.cons.inj heq
        refine ⟨rfl, fun j hj => ?_⟩
        have hne : j ≠ i := fun heq => hi (heq ▸ hj)
        exact (hstable s v i j hv hne).mp (ih hl hrest hrest' j hj)
      | false => exact absurd h' fun h' => hpassed hs hs' h h'
    | false =>
      cases hs' : active' s i with
      | true => exact absurd h' fun h' => hpassed hs' hs h' h
      | false =>
        rw [visit_cons_of_not hs] at h
        rw [visit_cons_of_not hs'] at h'
        exact ⟨rfl, ih hl h h'⟩

/-- If the two agree beforehand, everything is the same. -/
theorem visit_of_agree (hstable : Stable active active' act) (hl : l.Nodup)
    (h : visit active act l s = some (d, s')) (hagree : ∀ i ∈ l, active s i = active' s i) :
    visit active' act l s = some (d, s') := by
  induction l generalizing s d with
  | nil => exact h
  | cons i l ih =>
    obtain ⟨hi, hl⟩ := List.nodup_cons.mp hl
    rw [List.forall_mem_cons] at hagree
    cases hs : active s i with
    | true =>
      obtain ⟨v, d', hv, hrest, rfl⟩ := (visit_cons_of_active hs).mp h
      refine (visit_cons_of_active (hagree.1.symm.trans hs)).mpr ⟨v, d', hv, ih hl hrest ?_, rfl⟩
      intro j hj
      have hne : j ≠ i := fun heq => hi (heq ▸ hj)
      exact (hstable s v i j hv hne).mpr (hagree.2 j hj)
    | false =>
      rw [visit_cons_of_not hs] at h
      rw [visit_cons_of_not (hagree.1.symm.trans hs)]
      exact ih hl h hagree.2

/-- **The two act on the same indices exactly if they agree on all of them beforehand**, and then
they come to the same state. -/
theorem visit_eq_iff (hstable : Stable active active' act) (hl : l.Nodup)
    (h : visit active act l s = some (d, s')) :
    visit active' act l s = some (d, s') ↔ ∀ i ∈ l, active s i = active' s i :=
  ⟨agree_of_visit hstable hl h, visit_of_agree hstable hl h⟩

end Turns
