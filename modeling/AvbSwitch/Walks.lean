/-
Walks that come to an end.

`next c = none` means that the walk ends at `c`.  If every step makes a rank smaller, every walk
ends, and the places that it goes through form a list:

* `terminates` — there is no endless walk;
* `walk_eq` — a walk is its first place and the walk from the next one.
-/
import Mathlib.Tactic

namespace Walks

variable {σ : Type*} {next : σ → Option σ} {rank : σ → ℕ} {c d : σ} {fuel : ℕ}

/-- The places of a walk, as far as the fuel goes. -/
def trail (next : σ → Option σ) : ℕ → σ → List σ
  | 0, c => [c]
  | fuel + 1, c => c :: (next c).elim [] (trail next fuel)

/-- Every step makes the rank smaller. -/
def Descends (next : σ → Option σ) (rank : σ → ℕ) : Prop := ∀ c d, next c = some d → rank d < rank c

/-- The places of a walk from the first to the last. -/
def walk (next : σ → Option σ) (rank : σ → ℕ) (c : σ) : List σ := trail next (rank c) c

/-- More fuel than the rank makes no difference. -/
theorem trail_succ (h : Descends next rank) (hfuel : rank c ≤ fuel) :
    trail next (fuel + 1) c = trail next fuel c := by
  induction fuel generalizing c with
  | zero =>
    rw [trail, trail]
    cases hnext : next c with
    | none => rfl
    | some d => exact absurd (lt_of_lt_of_le (h c d hnext) hfuel) (Nat.not_lt_zero _)
  | succ fuel ih =>
    rw [trail, trail]
    cases hnext : next c with
    | none => rfl
    | some d =>
      have hd : rank d ≤ fuel := Nat.lt_succ_iff.mp (lt_of_lt_of_le (h c d hnext) hfuel)
      rw [Option.elim_some, Option.elim_some, ih hd]

theorem trail_eq_walk (h : Descends next rank) (hfuel : rank c ≤ fuel) :
    trail next fuel c = walk next rank c := by
  induction hfuel with
  | refl => rfl
  | step hle ih => rw [trail_succ h hle, ih]

theorem walk_eq (h : Descends next rank) :
    walk next rank c = c :: (next c).elim [] (walk next rank) := by
  rw [← trail_eq_walk h (Nat.le_succ (rank c)), trail]
  cases hnext : next c with
  | none => rfl
  | some d =>
    rw [Option.elim_some, Option.elim_some, trail_eq_walk h (le_of_lt (h c d hnext))]

/-- **There is no endless walk.** -/
theorem terminates (h : Descends next rank) (c : σ) : Acc (fun d c => next c = some d) c :=
  Subrelation.accessible (fun {d c} hnext => h c d hnext)
    (InvImage.accessible rank (Nat.lt_wfRel.wf.apply _))

end Walks
