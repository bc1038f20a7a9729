/-
Switches with two thresholds.

An input above the upper threshold sets the switch, one that is not above the lower threshold clears
it, and between the two the switch stays as it is.

* `run_eq_true_iff` — which inputs leave it set;
* `run_eq_false_of_le` — a switch that is not set stays so as long as no input is above the upper
  threshold.
-/
import Mathlib.Tactic

namespace Hysteresis

variable {α : Type*} [LinearOrder α] {low high : α} {on : Bool} {x : α} {xs : List α}

/-- The switch after an input. -/
def next (low high : α) (on : Bool) (x : α) : Bool :=
  if high < x then true else if x ≤ low then false else on

/-- The switch after any number of inputs. -/
def run (low high : α) (on : Bool) (xs : List α) : Bool := xs.foldl (next low high) on

/-- A switch that is not set looks at the upper threshold only, and one that is set at the lower. -/
@[simp] theorem next_false : next low high false x = decide (high < x) := by
  by_cases h : high < x
  · rw [next, if_pos h, decide_eq_true h]
  · rw [next, if_neg h, ite_self, decide_eq_false h]

theorem next_true (hle : low ≤ high) : next low high true x = decide (low < x) := by
  by_cases h : low < x
  · rw [next, if_neg h.not_ge, ite_self, decide_eq_true h]
  · have hhigh : ¬ high < x := fun hlt => h (hle.trans_lt hlt)
    rw [next, if_neg hhigh, if_pos (not_lt.mp h), decide_eq_false h]

/-- What sets a switch, and what keeps it set. -/
theorem next_eq_true_iff (hle : low ≤ high) :
    next low high on x = true ↔ high < x ∨ on = true ∧ low < x := by
  cases on with
  | false => simp
  | true =>
    rw [next_true hle, decide_eq_true_iff]
    exact ⟨fun h => Or.inr ⟨rfl, h⟩, fun h => h.elim hle.trans_lt And.right⟩

@[simp] theorem run_nil : run low high on [] = on := rfl

@[simp] theorem run_cons :
    run low high on (x :: xs) = run low high (next low high on x) xs := rfl

/-- **A switch is set** exactly if an input has set it, or it was set to begin with, and no input
since then has cleared it. -/
theorem run_eq_true_iff (hle : low ≤ high) :
    run low high on xs = true ↔
      (∃ before x after, xs = before ++ x :: after ∧ high < x ∧ ∀ y ∈ after, low < y) ∨
        on = true ∧ ∀ y ∈ xs, low < y := by
  induction xs generalizing on with
  | nil => simp
  | cons x xs ih =>
    rw [run_cons, ih, next_eq_true_iff hle, List.forall_mem_cons]
    constructor
    · rintro (⟨before, y, after, rfl, hy, hafter⟩ | ⟨hx | ⟨hon, hx⟩, hxs⟩)
      · exact Or.inl ⟨x :: before, y, after, rfl, hy, hafter⟩
      · exact Or.inl ⟨[], x, xs, rfl, hx, hxs⟩
      · exact Or.inr ⟨hon, hx, hxs⟩
    · rintro (⟨before, y, after, heq, hy, hafter⟩ | ⟨hon, hx, hxs⟩)
      · cases before with
        | nil =>
          obtain ⟨rfl, rfl⟩ := List.cons.inj heq
          exact Or.inr ⟨Or.inl hy, hafter⟩
        | cons z before =>
          obtain ⟨rfl, rfl⟩ := List.cons.inj heq
          exact Or.inl ⟨before, y, after, rfl, hy, hafter⟩
      · exact Or.inr ⟨Or.inr ⟨hon, hx⟩, hxs⟩

/-- **A switch that is not set stays so** as long as no input is above the upper threshold. -/
theorem run_eq_false_of_le (hle : low ≤ high) (h : ∀ x ∈ xs, x ≤ high) :
    run low high false xs = false := by
  rw [← Bool.not_eq_true, run_eq_true_iff hle]
  rintro (⟨before, x, after, rfl, hx, -⟩ | ⟨hon, -⟩)
  · exact hx.not_ge (h x (List.mem_append_right before List.mem_cons_self))
  · cases hon

end Hysteresis
