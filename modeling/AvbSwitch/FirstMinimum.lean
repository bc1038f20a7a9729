/-
The search for a best candidate.

An incumbent is given, and the candidates come one after another; a candidate
takes the place of the best one so far only if its key is strictly smaller.
What is found in the end (`best`) is characterised for candidates that come in
increasing order:

* `best_eq_none_iff` — the incumbent stays exactly if no key is smaller;
* `best_eq_some_iff` — a candidate is found exactly if it beats the incumbent, no
  key is smaller than its own, and no earlier candidate has the same key.
-/
import Mathlib.Tactic

namespace FirstMinimum

variable {ι κ : Type*} [LinearOrder κ]
variable {start : κ} {key : ι → κ} {eligible : ι → Prop} [DecidablePred eligible]
variable {l : List ι} {a i j : ι}

/-- The key of the best so far: that of the incumbent if no candidate was taken. -/
def keyOf (start : κ) (key : ι → κ) (o : Option ι) : κ := o.elim start key

/-- One candidate is looked at. -/
def better (start : κ) (key : ι → κ) (eligible : ι → Prop) [DecidablePred eligible]
    (o : Option ι) (i : ι) : Option ι :=
  if eligible i ∧ key i < keyOf start key o then some i else o

/-- The candidate that is left in the end, if any. -/
def best (start : κ) (key : ι → κ) (eligible : ι → Prop) [DecidablePred eligible]
    (l : List ι) : Option ι :=
  l.foldl (better start key eligible) none

theorem best_concat :
    best start key eligible (l ++ [a]) =
      better start key eligible (best start key eligible l) a := by
  rw [best, List.foldl_concat, ← best]

/-- Nothing that was looked at is better than what is left, nor is the incumbent. -/
theorem keyOf_best_le (start : κ) (key : ι → κ) (eligible : ι → Prop) [DecidablePred eligible]
    (l : List ι) :
    keyOf start key (best start key eligible l) ≤ start ∧
      ∀ j ∈ l, eligible j → keyOf start key (best start key eligible l) ≤ key j := by
  induction l using List.reverseRecOn with
  | nil => exact ⟨le_rfl, nofun⟩
  | append_singleton l a ih =>
    obtain ⟨hstart, hle⟩ := ih
    rw [best_concat, better]
    split_ifs with h
    · have hlt : key a < keyOf start key (best start key eligible l) := h.2
      refine ⟨hlt.le.trans hstart, fun j hj hel => ?_⟩
      rcases List.mem_append.mp hj with hj | hj
      · exact hlt.le.trans (hle j hj hel)
      · rw [List.mem_singleton.mp hj, keyOf, Option.elim_some]
    · refine ⟨hstart, fun j hj hel => ?_⟩
      rcases List.mem_append.mp hj with hj | hj
      · exact hle j hj hel
      · rw [List.mem_singleton.mp hj] at hel ⊢
        exact not_lt.mp fun hlt => h ⟨hel, hlt⟩

variable [LinearOrder ι]

/-- What is found is a candidate that beats the incumbent, and every candidate
with the same key comes later. -/
theorem of_best_eq_some (hl : l.Pairwise (· < ·)) (h : best start key eligible l = some i) :
    i ∈ l ∧ eligible i ∧ key i < start ∧ ∀ j ∈ l, eligible j → key j = key i → i ≤ j := by
  induction l using List.reverseRecOn with
  | nil => exact absurd h nofun
  | append_singleton l a ih =>
    obtain ⟨hl', -, hla⟩ := List.pairwise_append.mp hl
    rw [best_concat, better] at h
    split_ifs at h with hbetter
    · obtain rfl := Option.some_inj.mp h
      have hmin := keyOf_best_le start key eligible l
      refine ⟨List.mem_append_right _ (List.mem_singleton_self _), hbetter.1,
        hbetter.2.trans_le hmin.1, fun j hj hel hkey => ?_⟩
      rcases List.mem_append.mp hj with hj | hj
      · exact absurd (hmin.2 j hj hel) (not_le.mpr (hkey ▸ hbetter.2))
      · exact (List.mem_singleton.mp hj).ge
    · obtain ⟨hi, hel, hlt, hfirst⟩ := ih hl' h
      refine ⟨List.mem_append_left _ hi, hel, hlt, fun j hj helj hkey => ?_⟩
      rcases List.mem_append.mp hj with hj | hj
      · exact hfirst j hj helj hkey
      · exact (List.mem_singleton.mp hj) ▸ (hla i hi a (List.mem_singleton_self _)).le

theorem best_eq_none_iff (hl : l.Pairwise (· < ·)) :
    best start key eligible l = none ↔ ∀ j ∈ l, eligible j → start ≤ key j := by
  constructor
  · intro h j hj hel
    have hle := (keyOf_best_le start key eligible l).2 j hj hel
    rwa [h] at hle
  · intro h
    match hb : best start key eligible l with
    | none => rfl
    | some i =>
      obtain ⟨hi, hel, hlt, -⟩ := of_best_eq_some hl hb
      exact absurd (h i hi hel) (not_le.mpr hlt)

/-- **The first of the smallest is found.** -/
theorem best_eq_some_iff (hl : l.Pairwise (· < ·)) :
    best start key eligible l = some i ↔
      i ∈ l ∧ eligible i ∧ key i < start ∧
        ∀ j ∈ l, eligible j → key i < key j ∨ key i = key j ∧ i ≤ j := by
  constructor
  · intro h
    obtain ⟨hi, hel, hlt, hfirst⟩ := of_best_eq_some hl h
    refine ⟨hi, hel, hlt, fun j hj helj => ?_⟩
    have hle := (keyOf_best_le start key eligible l).2 j hj helj
    rw [h] at hle
    exact hle.lt_or_eq.imp_right fun heq => ⟨heq, hfirst j hj helj heq.symm⟩
  · rintro ⟨hi, hel, hlt, hmin⟩
    match hb : best start key eligible l with
    | none => exact absurd ((best_eq_none_iff hl).mp hb i hi hel) (not_le.mpr hlt)
    | some k =>
      -- two candidates that are each the first of the smallest are the same
      obtain ⟨hk, helk, -, hfirst⟩ := of_best_eq_some hl hb
      have hle := (keyOf_best_le start key eligible l).2 i hi hel
      rw [hb] at hle
      rcases hmin k hk helk with h | ⟨h, hik⟩
      · exact absurd hle (not_le.mpr h)
      · rw [le_antisymm (hfirst i hi hel h) hik]

end FirstMinimum
