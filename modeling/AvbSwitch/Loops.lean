/-
Loops with a test.

`loop test body fuel s` makes its turns from `s` on for as long as the test holds.  It is `none` if
the fuel is used up before the test has failed.

* `loop_ends` — if the turns keep an invariant and make a rank smaller, the loop ends, in a state
  with the invariant for which the test fails.
-/
import Mathlib.Data.Nat.Notation
import Mathlib.Tactic.TypeStar

namespace Loops

variable {σ : Type*} {test : σ → Prop} [DecidablePred test] {body : σ → σ} {s : σ} {fuel : ℕ}
  {inv : σ → Prop}

/-- `while (test) body`, with one test for each unit of fuel. -/
def loop (test : σ → Prop) [DecidablePred test] (body : σ → σ) : ℕ → σ → Option σ
  | 0, _ => none
  | fuel + 1, s => if test s then loop test body fuel (body s) else some s

/-- **A loop ends** if its turns keep an invariant and make a rank smaller. -/
theorem loop_ends (rank : σ → ℕ) (hkeeps : ∀ s, inv s → test s → inv (body s))
    (hdescends : ∀ s, inv s → test s → rank (body s) < rank s) (hs : inv s)
    (hfuel : rank s < fuel) :
    ∃ s', loop test body fuel s = some s' ∧ inv s' ∧ ¬ test s' := by
  induction fuel generalizing s with
  | zero => exact absurd hfuel (Nat.not_lt_zero _)
  | succ fuel ih =>
    rw [loop]
    by_cases htest : test s
    · have hrank : rank (body s) < fuel :=
        Nat.lt_of_lt_of_le (hdescends s hs htest) (Nat.le_of_lt_succ hfuel)
      rw [if_pos htest]
      exact ih (hkeeps s hs htest) hrank
    · rw [if_neg htest]
      exact ⟨s, rfl, hs, htest⟩

end Loops
