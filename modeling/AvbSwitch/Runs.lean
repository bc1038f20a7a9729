/-
Runs of a deterministic, partial step function.

`step s a = none` means that the step is not defined, and a run through it is
not defined either.  A run is `List.foldlM`; what is added here are the rules by
which facts about one step become facts about all runs:

* `run_invariant` — what every step preserves holds at the end of every run;
* `throughout_iff_eachStep` — if a step keeps a property exactly when a guard
  holds of it, then the property holds all along a run exactly when the guard
  holds at each of its steps;
* `throughout_of_eachStep` — the direction from the guard alone, where a step that
  meets it keeps an invariant as well;
* `atEach_congr`, `atEach_of_invariant` — the same for what is said of each step by
  itself, including that it is defined;
* `throughout_and_atEach_iff` — both at once;
* `Mealy.trace_eq_iff` — two machines with outputs show the same trace exactly
  when they agree at each step of one of the two runs.
-/
import Mathlib.Tactic

namespace Runs

section Partial

variable {σ α : Type*} {step : σ → α → Option σ} {s s' : σ} {a : α} {as : List α}

/-- Take the steps of a list in order. -/
def run (step : σ → α → Option σ) (s : σ) (as : List α) : Option σ := as.foldlM step s

@[simp] theorem run_nil : run step s [] = some s := rfl

theorem run_cons : run step s (a :: as) = (step s a).bind fun t => run step t as := rfl

theorem run_cons_eq_some :
    run step s (a :: as) = some s' ↔ ∃ t, step s a = some t ∧ run step t as = some s' := by
  rw [run_cons, Option.bind_eq_some_iff]

theorem run_append_eq_some {bs : List α} :
    run step s (as ++ bs) = some s' ↔ ∃ t, run step s as = some t ∧ run step t bs = some s' := by
  rw [run, List.foldlM_append]
  exact Option.bind_eq_some_iff

theorem run_singleton : run step s [a] = step s a := by
  rw [run_cons]
  cases step s a <;> rfl

/-- A property that every step on an input of one kind preserves is preserved by every run on
inputs of that kind. -/
theorem run_invariant_of_forall {I : σ → Prop} {Q : α → Prop}
    (hstep : ∀ {s a s'}, Q a → I s → step s a = some s' → I s') :
    ∀ {as : List α} {s s' : σ}, (∀ a ∈ as, Q a) → I s → run step s as = some s' → I s' := by
  intro as
  induction as with
  | nil =>
    intro s s' _ hI h
    rw [run_nil, Option.some_inj] at h
    exact h ▸ hI
  | cons a as ih =>
    intro s s' hQ hI h
    rw [List.forall_mem_cons] at hQ
    obtain ⟨t, ht, hrun⟩ := run_cons_eq_some.mp h
    exact ih hQ.2 (hstep hQ.1 hI ht) hrun

/-- A property that every step preserves is preserved by every run. -/
theorem run_invariant {I : σ → Prop} (hstep : ∀ {s a s'}, I s → step s a = some s' → I s')
    {as : List α} {s s' : σ} (hI : I s) (h : run step s as = some s') : I s' :=
  run_invariant_of_forall (Q := fun _ => True) (fun _ => hstep) (fun _ _ => trivial) hI h

/-- Every step that the run takes meets `P` in the state it is taken from. -/
def EachStep (step : σ → α → Option σ) (P : σ → α → Prop) : σ → List α → Prop
  | _, [] => True
  | s, a :: as => ∀ t, step s a = some t → P s a ∧ EachStep step P t as

theorem eachStep_cons {P : σ → α → Prop} {t : σ} (h : step s a = some t) :
    EachStep step P s (a :: as) ↔ P s a ∧ EachStep step P t as := by
  constructor
  · intro hall
    exact hall t h
  · intro hall t' ht'
    obtain rfl := Option.some_inj.mp (h.symm.trans ht')
    exact hall

/-- The steps of a run that is defined, each with the run before it. -/
theorem eachStep_iff_forall {P : σ → α → Prop} (hrun : run step s as = some s') :
    EachStep step P s as ↔ ∀ before a after t, as = before ++ a :: after →
      run step s before = some t → P t a := by
  induction as generalizing s with
  | nil =>
    refine ⟨fun _ before a after t has _ => ?_, fun _ => trivial⟩
    exact absurd has.symm (List.append_ne_nil_of_right_ne_nil _ (List.cons_ne_nil _ _))
  | cons a as ih =>
    obtain ⟨t, ht, hrest⟩ := run_cons_eq_some.mp hrun
    rw [eachStep_cons ht, ih hrest]
    constructor
    · rintro ⟨hfirst, hlater⟩ before b after u has hbefore
      rcases List.cons_eq_append_iff.mp has with ⟨rfl, hcons⟩ | ⟨before, rfl, has'⟩
      · obtain ⟨rfl, -⟩ := List.cons.inj hcons
        obtain rfl := Option.some_inj.mp (run_nil.symm.trans hbefore)
        exact hfirst
      · obtain ⟨t', ht', hbefore⟩ := run_cons_eq_some.mp hbefore
        obtain rfl := Option.some_inj.mp (ht.symm.trans ht')
        exact hlater before b after u has' hbefore
    · intro hall
      refine ⟨hall [] a as s rfl run_nil, fun before b after u has hbefore => ?_⟩
      exact hall (a :: before) b after u (by rw [has, List.cons_append])
        (run_cons_eq_some.mpr ⟨t, ht, hbefore⟩)

/-- Whether each step meets a guard that can be decided, can be decided by taking the run. -/
instance decidableEachStep (P : σ → α → Prop) [∀ s a, Decidable (P s a)] :
    ∀ (s : σ) (as : List α), Decidable (EachStep step P s as)
  | _, [] => isTrue trivial
  | s, a :: as =>
    match h : step s a with
    | none => isTrue fun _ ht => absurd (h.symm.trans ht) (Option.some_ne_none _).symm
    | some t =>
      have := decidableEachStep P t as
      decidable_of_iff' _ (eachStep_cons h)

/-- Every state that the run goes through, both ends included, satisfies `I`. -/
def Throughout (step : σ → α → Option σ) (I : σ → Prop) (s : σ) (as : List α) : Prop :=
  ∀ pre s', pre <+: as → run step s pre = some s' → I s'

theorem throughout_nil {I : σ → Prop} : Throughout step I s [] ↔ I s := by
  constructor
  · intro h
    exact h [] s List.prefix_rfl run_nil
  · intro hI pre s' hpre hrun
    rw [List.prefix_nil.mp hpre, run_nil, Option.some_inj] at hrun
    exact hrun ▸ hI

theorem throughout_cons {I : σ → Prop} :
    Throughout step I s (a :: as) ↔
      I s ∧ ∀ t, step s a = some t → Throughout step I t as := by
  constructor
  · intro h
    refine ⟨h [] s (List.nil_prefix) run_nil, fun t ht pre s' hpre hrun => ?_⟩
    exact h (a :: pre) s' (List.cons_prefix_cons.mpr ⟨rfl, hpre⟩)
      (run_cons_eq_some.mpr ⟨t, ht, hrun⟩)
  · rintro ⟨hI, h⟩ pre s' hpre hrun
    rcases pre with _ | ⟨b, pre⟩
    · rw [run_nil, Option.some_inj] at hrun
      exact hrun ▸ hI
    · obtain ⟨rfl, hpre'⟩ := List.cons_prefix_cons.mp hpre
      obtain ⟨t, ht, hrun'⟩ := run_cons_eq_some.mp hrun
      exact h t ht pre s' hpre' hrun'

/-- If, from the states satisfying the invariant `K`, a step keeps `I` exactly
when the guard `P` holds of it, then `I` holds all along a run exactly when `P`
holds at each step. -/
theorem throughout_iff_eachStep {I K : σ → Prop} {P : σ → α → Prop}
    (hK : ∀ {s a s'}, K s → step s a = some s' → K s')
    (hstep : ∀ {s a s'}, K s → I s → step s a = some s' → (I s' ↔ P s a)) :
    ∀ {as : List α} {s : σ}, K s → I s →
      (Throughout step I s as ↔ EachStep step P s as) := by
  intro as
  induction as with
  | nil =>
    intro s _ hI
    exact ⟨fun _ => trivial, fun _ => throughout_nil.mpr hI⟩
  | cons a as ih =>
    intro s hk hI
    rw [throughout_cons]
    constructor
    · rintro ⟨-, h⟩ t ht
      have hIt : I t := h t ht [] t List.nil_prefix run_nil
      exact ⟨(hstep hk hI ht).mp hIt, (ih (hK hk ht) hIt).mp (h t ht)⟩
    · intro h
      refine ⟨hI, fun t ht => ?_⟩
      obtain ⟨hP, hrest⟩ := h t ht
      exact (ih (hK hk ht) ((hstep hk hI ht).mpr hP)).mpr hrest

/-- If a step that meets the guard `P` keeps `K` and establishes `I`, then `I` holds all along
a run whose steps meet the guard. -/
theorem throughout_of_eachStep {I K : σ → Prop} {P : σ → α → Prop}
    (hstep : ∀ {s a s'}, K s → P s a → step s a = some s' → K s' ∧ I s') :
    ∀ {as : List α} {s : σ}, K s → I s → EachStep step P s as → Throughout step I s as := by
  intro as
  induction as with
  | nil => intro s _ hI _; exact throughout_nil.mpr hI
  | cons a as ih =>
    intro s hk hI h
    refine throughout_cons.mpr ⟨hI, fun t ht => ?_⟩
    obtain ⟨hP, hrest⟩ := h t ht
    obtain ⟨hkt, hIt⟩ := hstep hk hP ht
    exact ih hkt hIt hrest

/-- Guards that are equivalent at every state of the run may be exchanged. -/
theorem eachStep_congr {K : σ → Prop} {P Q : σ → α → Prop}
    (hK : ∀ {s a s'}, K s → step s a = some s' → K s')
    (hPQ : ∀ {s a}, K s → (P s a ↔ Q s a)) :
    ∀ {as : List α} {s : σ}, K s → (EachStep step P s as ↔ EachStep step Q s as) := by
  intro as
  induction as with
  | nil => intro s _; exact Iff.rfl
  | cons a as ih =>
    intro s hk
    constructor
    · intro h t ht
      exact ⟨(hPQ hk).mp (h t ht).1, (ih (hK hk ht)).mp (h t ht).2⟩
    · intro h t ht
      exact ⟨(hPQ hk).mpr (h t ht).1, (ih (hK hk ht)).mpr (h t ht).2⟩

/-- `P` holds of each step that the run comes to, in the state that it is to be taken from,
whether the step is defined there or not. -/
def AtEach (step : σ → α → Option σ) (P : σ → α → Prop) : σ → List α → Prop
  | _, [] => True
  | s, a :: as => P s a ∧ ∀ t, step s a = some t → AtEach step P t as

/-- What holds at each step holds at the last one. -/
theorem AtEach.last {P : σ → α → Prop} (h : AtEach step P s (as ++ [a]))
    (hrun : run step s as = some s') : P s' a := by
  induction as generalizing s with
  | nil =>
    obtain rfl := Option.some_inj.mp (run_nil.symm.trans hrun)
    exact h.1
  | cons b as ih =>
    obtain ⟨t, ht, hrest⟩ := run_cons_eq_some.mp hrun
    exact ih (h.2 t ht) hrest

/-- What follows from the invariant `K` holds at each step. -/
theorem atEach_of_invariant {K : σ → Prop} {P : σ → α → Prop}
    (hK : ∀ {s a s'}, K s → step s a = some s' → K s') (hP : ∀ {s a}, K s → P s a) :
    ∀ {as : List α} {s : σ}, K s → AtEach step P s as := by
  intro as
  induction as with
  | nil => intro s _; trivial
  | cons a as ih =>
    intro s hk
    exact ⟨hP hk, fun t ht => ih (hK hk ht)⟩

/-- Properties that are equivalent for the steps in the list, at the states satisfying the
invariant `K`, may be exchanged. -/
theorem atEach_congr {K : σ → Prop} {P Q : σ → α → Prop}
    (hK : ∀ {s a s'}, K s → step s a = some s' → K s') :
    ∀ {as : List α}, (∀ a ∈ as, ∀ s, K s → (P s a ↔ Q s a)) → ∀ {s : σ}, K s →
      (AtEach step P s as ↔ AtEach step Q s as) := by
  intro as
  induction as with
  | nil => intro _ s _; exact Iff.rfl
  | cons a as ih =>
    intro hPQ s hk
    rw [List.forall_mem_cons] at hPQ
    refine and_congr (hPQ.1 s hk) (forall₂_congr fun t ht => ?_)
    exact ih hPQ.2 (hK hk ht)

/-- If, from a state satisfying `I`, a step meets `P` and keeps `I` exactly when it meets `Q`, then
`I` holds all along a run and `P` at each of its steps exactly when `Q` holds at each. -/
theorem throughout_and_atEach_iff {I : σ → Prop} {P Q : σ → α → Prop}
    (hstep : ∀ {s a}, I s → ((P s a ∧ ∀ t, step s a = some t → I t) ↔ Q s a)) :
    ∀ {as : List α} {s : σ}, I s →
      (Throughout step I s as ∧ AtEach step P s as ↔ AtEach step Q s as) := by
  intro as
  induction as with
  | nil =>
    intro s hI
    exact ⟨fun _ => trivial, fun _ => ⟨throughout_nil.mpr hI, trivial⟩⟩
  | cons a as ih =>
    intro s hI
    rw [throughout_cons]
    constructor
    · rintro ⟨⟨-, hthroughout⟩, hP, hrest⟩
      have hkept : ∀ t, step s a = some t → I t := by
        intro t ht
        exact hthroughout t ht [] t List.nil_prefix run_nil
      refine ⟨(hstep hI).mp ⟨hP, hkept⟩, fun t ht => ?_⟩
      exact (ih (hkept t ht)).mp ⟨hthroughout t ht, hrest t ht⟩
    · rintro ⟨hQ, hrest⟩
      obtain ⟨hP, hkept⟩ := (hstep hI).mpr hQ
      refine ⟨⟨hI, fun t ht => ?_⟩, hP, fun t ht => ?_⟩
      · exact ((ih (hkept t ht)).mpr (hrest t ht)).1
      · exact ((ih (hkept t ht)).mpr (hrest t ht)).2

end Partial

/-! ### Machines with outputs -/

/-- A deterministic machine that answers each input with an output. -/
structure Mealy (σ ε ω : Type*) where
  next : σ → ε → σ
  out : σ → ε → ω

namespace Mealy

variable {σ ε ω : Type*} (M N : Mealy σ ε ω)

/-- The states entered and the outputs given along a list of inputs. -/
def trace : σ → List ε → List (σ × ω)
  | _, [] => []
  | s, e :: es => (M.next s e, M.out s e) :: trace (M.next s e) es

/-- The machine as a total step function. -/
def step (s : σ) (e : ε) : Option σ := some (M.next s e)

/-- Both machines enter the same state and give the same output. -/
def Agree (s : σ) (e : ε) : Prop := M.next s e = N.next s e ∧ M.out s e = N.out s e

/-- Two machines show the same trace exactly when they agree at each step of the
second one's run. -/
theorem trace_eq_iff : ∀ {es : List ε} {s : σ},
    M.trace s es = N.trace s es ↔ EachStep N.step (M.Agree N) s es := by
  intro es
  induction es with
  | nil => intro s; exact ⟨fun _ => trivial, fun _ => rfl⟩
  | cons e es ih =>
    intro s
    simp only [trace, List.cons.injEq, Prod.mk.injEq, EachStep, step, Option.some_inj,
      forall_eq']
    constructor
    · rintro ⟨hag, htail⟩
      rw [hag.1] at htail
      exact ⟨hag, ih.mp htail⟩
    · rintro ⟨hag, htail⟩
      refine ⟨hag, ?_⟩
      rw [hag.1]
      exact ih.mpr htail

end Mealy

end Runs
