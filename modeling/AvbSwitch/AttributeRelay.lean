/-
Relays of attributes between the ports of a bridge.

A port has slots.  A slot holds the registration of an attribute that the port has received, or
a declaration that the port makes of an attribute received elsewhere; an attribute is a stream
with its kind.  `Step` says what such a relay can do: it takes a slot for the registration of a
new stream, or it joins a registration, which it then reserves and declares on every other port
if the kind is one of those that are carried.

* `Path.grows` — no step takes anything back;
* `Path.consistent` — what is declared is what has been joined elsewhere, what is reserved is what
  has been joined, and a stream is registered once.
-/
import Mathlib.Data.Set.Insert
import Mathlib.Logic.Function.Basic
import Mathlib.Logic.Relation
import Mathlib.Tactic.ByCases

namespace AttributeRelay

variable {ι σ τ κ : Type*}

/-- What a slot can hold. -/
inductive Entry (τ κ : Type*)
  | registration (a : τ × κ) (joined : Bool)
  | declaration (a : τ × κ)

/-- The slots of the ports, and the attributes that are reserved on them. -/
structure Relay (ι σ τ κ : Type*) where
  table : ι → σ → Option (Entry τ κ)
  reserved : ι → Set (τ × κ)

variable {carried : τ → Prop} {R R' R'' : Relay ι σ τ κ} {p : ι} {a : τ × κ}

/-! ### What is never taken back -/

/-- The entry stays; a registration may be joined. -/
inductive Entry.Kept : Entry τ κ → Entry τ κ → Prop
  | refl (e : Entry τ κ) : Kept e e
  | joined (a : τ × κ) (b : Bool) : Kept (.registration a b) (.registration a true)

theorem Entry.Kept.trans {e e' e'' : Entry τ κ} (h : e.Kept e') (h' : e'.Kept e'') : e.Kept e'' := by
  cases h with
  | refl => exact h'
  | joined a b =>
    cases h' with
    | refl => exact .joined a b
    | joined => exact .joined a b

/-- Everything that `R` holds is still there in `R'`. -/
structure Grows (R R' : Relay ι σ τ κ) : Prop where
  entries : ∀ p i e, R.table p i = some e → ∃ e', R'.table p i = some e' ∧ e.Kept e'
  reserved : ∀ p, R.reserved p ⊆ R'.reserved p

theorem Grows.refl (R : Relay ι σ τ κ) : Grows R R :=
  ⟨fun _ _ e h => ⟨e, h, .refl e⟩, fun _ => Set.Subset.rfl⟩

theorem Grows.trans (h : Grows R R') (h' : Grows R' R'') : Grows R R'' := by
  refine ⟨fun p i e he => ?_, fun p => (h.reserved p).trans (h'.reserved p)⟩
  obtain ⟨e', he', hkept⟩ := h.entries p i e he
  obtain ⟨e'', he'', hkept'⟩ := h'.entries p i e' he'
  exact ⟨e'', he'', hkept.trans hkept'⟩

/-! ### What the entries have to do with each other -/

/-- `a` has been joined on port `p`. -/
def Relay.Joined (R : Relay ι σ τ κ) (p : ι) (a : τ × κ) : Prop :=
  ∃ i, R.table p i = some (.registration a true)

/-- Port `p` declares `a`. -/
def Relay.Declared (R : Relay ι σ τ κ) (p : ι) (a : τ × κ) : Prop :=
  ∃ i, R.table p i = some (.declaration a)

structure Consistent (carried : τ → Prop) (R : Relay ι σ τ κ) : Prop where
  /-- a stream is registered once -/
  once : ∀ p q i j a b joined joined', R.table p i = some (.registration a joined) →
    R.table q j = some (.registration b joined') → a.2 = b.2 → p = q ∧ i = j
  /-- what is declared has been joined on another port -/
  backed : ∀ q a, R.Declared q a → carried a.1 ∧ ∃ p, p ≠ q ∧ R.Joined p a
  /-- what has been joined is declared on every other port -/
  passedOn : ∀ p a, R.Joined p a → carried a.1 → ∀ q, q ≠ p → R.Declared q a
  /-- what is reserved is what has been joined -/
  reserved : ∀ p a, a ∈ R.reserved p ↔ R.Joined p a

/-- A relay that holds nothing. -/
theorem Consistent.of_empty (htable : ∀ p i, R.table p i = none) (hreserved : ∀ p, R.reserved p = ∅) :
    Consistent carried R := by
  have hno : ∀ {p i e}, R.table p i ≠ some e := by
    intro p i e h
    rw [htable p i] at h
    cases h
  refine ⟨fun p q i j a b joined joined' h => absurd h hno, ?_, ?_, fun p a => ?_⟩
  · rintro q a ⟨i, hi⟩
    exact absurd hi hno
  · rintro p a ⟨i, hi⟩
    exact absurd hi hno
  · rw [hreserved p]
    refine ⟨fun h => absurd h (Set.notMem_empty a), ?_⟩
    rintro ⟨i, hi⟩
    exact absurd hi hno

theorem Grows.joined (h : Grows R R') (ha : R.Joined p a) : R'.Joined p a := by
  obtain ⟨i, hi⟩ := ha
  obtain ⟨e', he', hkept⟩ := h.entries p i _ hi
  refine ⟨i, ?_⟩
  cases hkept with
  | refl => exact he'
  | joined => exact he'

theorem Grows.declared (h : Grows R R') (ha : R.Declared p a) : R'.Declared p a := by
  obtain ⟨i, hi⟩ := ha
  obtain ⟨e', he', hkept⟩ := h.entries p i _ hi
  refine ⟨i, ?_⟩
  cases hkept with
  | refl => exact he'

/-! ### Steps -/

variable [DecidableEq ι] [DecidableEq σ]

/-- One slot more of a port holds a declaration of `a`. -/
def Declares (row row' : σ → Option (Entry τ κ)) (a : τ × κ) : Prop :=
  ∃ i, row i = none ∧ row' = Function.update row i (some (.declaration a))

/-- What a relay can do. -/
inductive Step (carried : τ → Prop) : Relay ι σ τ κ → Relay ι σ τ κ → Prop
  /-- A free slot is taken for the registration of a stream that is registered nowhere. -/
  | register {R R' : Relay ι σ τ κ} (p : ι) (i : σ) (a : τ × κ) (hfree : R.table p i = none)
      (hnew : ∀ q j b joined, R.table q j = some (.registration b joined) → b.2 ≠ a.2)
      (hrow : R'.table p = Function.update (R.table p) i (some (.registration a false)))
      (hrows : ∀ q, q ≠ p → R'.table q = R.table q)
      (hreserved : R'.reserved = R.reserved) : Step carried R R'
  /-- A registration is joined. -/
  | join {R R' : Relay ι σ τ κ} (p : ι) (i : σ) (a : τ × κ) (joined : Bool)
      (hat : R.table p i = some (.registration a joined))
      (hrow : R'.table p = Function.update (R.table p) i (some (.registration a true)))
      (hcarried : carried a.1 → ∀ q, q ≠ p → Declares (R.table q) (R'.table q) a)
      (hrows : ¬ carried a.1 → ∀ q, q ≠ p → R'.table q = R.table q)
      (hreserved : R'.reserved = Function.update R.reserved p (insert a (R.reserved p))) :
      Step carried R R'

/-- Any number of steps. -/
abbrev Path (carried : τ → Prop) : Relay ι σ τ κ → Relay ι σ τ κ → Prop :=
  Relation.ReflTransGen (Step carried)

omit [DecidableEq ι] in
theorem update_eq_some {row : σ → Option (Entry τ κ)} {i j : σ} {x e : Entry τ κ} :
    Function.update row i (some x) j = some e ↔ j = i ∧ x = e ∨ j ≠ i ∧ row j = some e := by
  by_cases hj : j = i
  · subst hj
    simp
  · simp [hj]

omit [DecidableEq ι] in
/-- An entry put into a free slot leaves the others alone. -/
theorem kept_of_update {row : σ → Option (Entry τ κ)} {i j : σ} {e x : Entry τ κ}
    (hi : row i = none) (hj : row j = some e) : Function.update row i (some x) j = some e := by
  refine update_eq_some.mpr (Or.inr ⟨?_, hj⟩)
  rintro rfl
  rw [hi] at hj
  cases hj

theorem Step.grows (h : Step carried R R') : Grows R R' := by
  cases h with
  | register p i a hfree _ hrow hrows hreserved =>
    refine ⟨fun q j e he => ⟨e, ?_, .refl e⟩, fun q => by rw [hreserved]⟩
    by_cases hq : q = p
    · subst hq
      rw [hrow]
      exact kept_of_update hfree he
    · rw [hrows q hq, he]
  | join p i a joined hat hrow hcarried hrows hreserved =>
    constructor
    · intro q j e he
      by_cases hq : q = p
      · subst hq
        rw [hrow]
        by_cases hj : j = i
        · subst hj
          rw [hat, Option.some_inj] at he
          subst he
          exact ⟨_, Function.update_self .., .joined a joined⟩
        · exact ⟨e, by rw [Function.update_of_ne hj, he], .refl e⟩
      · by_cases hc : carried a.1
        · obtain ⟨k, hk, hrow'⟩ := hcarried hc q hq
          exact ⟨e, by rw [hrow']; exact kept_of_update hk he, .refl e⟩
        · exact ⟨e, by rw [hrows hc q hq, he], .refl e⟩
    · intro q b hb
      rw [hreserved]
      by_cases hq : q = p
      · subst hq
        rw [Function.update_self]
        exact Set.mem_insert_of_mem a hb
      · rw [Function.update_of_ne hq]
        exact hb

theorem Path.grows (h : Path carried R R') : Grows R R' := by
  induction h with
  | refl => exact Grows.refl R
  | tail _ hstep ih => exact ih.trans hstep.grows

/-- A new registration keeps the relay consistent. -/
theorem Consistent.register {i : σ} (hR : Consistent carried R) (hgrows : Grows R R')
    (hnew : ∀ q j b joined, R.table q j = some (.registration b joined) → b.2 ≠ a.2)
    (hrow : R'.table p = Function.update (R.table p) i (some (.registration a false)))
    (hrows : ∀ q, q ≠ p → R'.table q = R.table q) (hreserved : R'.reserved = R.reserved) :
    Consistent carried R' := by
  have hentry : ∀ q j e, R'.table q j = some e →
      q = p ∧ j = i ∧ e = .registration a false ∨ R.table q j = some e := by
    intro q j e he
    by_cases hq : q = p
    · subst hq
      rw [hrow] at he
      rcases update_eq_some.mp he with ⟨hj, rfl⟩ | ⟨-, hold⟩
      · exact Or.inl ⟨rfl, hj, rfl⟩
      · exact Or.inr hold
    · rw [hrows q hq] at he
      exact Or.inr he
  have hjoined : ∀ q b, R'.Joined q b ↔ R.Joined q b := by
    refine fun q b => ⟨?_, hgrows.joined⟩
    rintro ⟨j, hj⟩
    rcases hentry q j _ hj with ⟨-, -, heq⟩ | hold
    · cases heq
    · exact ⟨j, hold⟩
  have hdeclared : ∀ q b, R'.Declared q b → R.Declared q b := by
    rintro q b ⟨j, hj⟩
    rcases hentry q j _ hj with ⟨-, -, heq⟩ | hold
    · cases heq
    · exact ⟨j, hold⟩
  refine ⟨fun q q' j j' b b' x x' hb hb' hstream => ?_, fun q b hb => ?_, fun q b hb hc q' hq' => ?_,
    fun q b => ?_⟩
  · rcases hentry q j _ hb with ⟨rfl, rfl, heq⟩ | hold
    · rcases hentry q' j' _ hb' with ⟨rfl, rfl, -⟩ | hold'
      · exact ⟨rfl, rfl⟩
      · cases heq
        exact absurd hstream.symm (hnew q' j' b' x' hold')
    · rcases hentry q' j' _ hb' with ⟨rfl, rfl, heq⟩ | hold'
      · cases heq
        exact absurd hstream (hnew q j b x hold)
      · exact hR.once q q' j j' b b' x x' hold hold' hstream
  · obtain ⟨hc, p', hp', hj⟩ := hR.backed q b (hdeclared q b hb)
    exact ⟨hc, p', hp', (hjoined p' b).mpr hj⟩
  · exact hgrows.declared (hR.passedOn q b ((hjoined q b).mp hb) hc q' hq')
  · rw [hreserved, hR.reserved, hjoined]

/-- A join keeps it consistent. -/
theorem Consistent.join {i : σ} {joined : Bool} (hR : Consistent carried R) (hgrows : Grows R R')
    (hat : R.table p i = some (.registration a joined))
    (hrow : R'.table p = Function.update (R.table p) i (some (.registration a true)))
    (hcarried : carried a.1 → ∀ q, q ≠ p → Declares (R.table q) (R'.table q) a)
    (hrows : ¬ carried a.1 → ∀ q, q ≠ p → R'.table q = R.table q)
    (hreserved : R'.reserved = Function.update R.reserved p (insert a (R.reserved p))) :
    Consistent carried R' := by
  have hentry : ∀ q j e, R'.table q j = some e →
      q = p ∧ j = i ∧ e = .registration a true ∨
        carried a.1 ∧ q ≠ p ∧ e = .declaration a ∨ R.table q j = some e := by
    intro q j e he
    by_cases hq : q = p
    · subst hq
      rw [hrow] at he
      rcases update_eq_some.mp he with ⟨hj, rfl⟩ | ⟨-, hold⟩
      · exact Or.inl ⟨rfl, hj, rfl⟩
      · exact Or.inr (Or.inr hold)
    · by_cases hc : carried a.1
      · obtain ⟨k, -, hrow'⟩ := hcarried hc q hq
        rw [hrow'] at he
        rcases update_eq_some.mp he with ⟨-, rfl⟩ | ⟨-, hold⟩
        · exact Or.inr (Or.inl ⟨hc, hq, rfl⟩)
        · exact Or.inr (Or.inr hold)
      · rw [hrows hc q hq] at he
        exact Or.inr (Or.inr he)
  have hself : R'.Joined p a := ⟨i, by rw [hrow, Function.update_self]⟩
  have hjoined : ∀ q b, R'.Joined q b → q = p ∧ b = a ∨ R.Joined q b := by
    rintro q b ⟨j, hj⟩
    rcases hentry q j _ hj with ⟨hq, -, heq⟩ | ⟨-, -, heq⟩ | hold
    · cases heq
      exact Or.inl ⟨hq, rfl⟩
    · cases heq
    · exact Or.inr ⟨j, hold⟩
  -- a registration was there before, joined or not
  have hregistered : ∀ q j b x, R'.table q j = some (.registration b x) →
      ∃ y, R.table q j = some (.registration b y) := by
    intro q j b x hb
    rcases hentry q j _ hb with ⟨rfl, rfl, heq⟩ | ⟨-, -, heq⟩ | hold
    · cases heq
      exact ⟨joined, hat⟩
    · cases heq
    · exact ⟨x, hold⟩
  refine ⟨fun q q' j j' b b' x x' hb hb' hstream => ?_, fun q b hb => ?_, fun q b hb hc q' hq' => ?_,
    fun q b => ?_⟩
  · obtain ⟨y, hy⟩ := hregistered q j b x hb
    obtain ⟨y', hy'⟩ := hregistered q' j' b' x' hb'
    exact hR.once q q' j j' b b' y y' hy hy' hstream
  · obtain ⟨j, hj⟩ := hb
    rcases hentry q j _ hj with ⟨-, -, heq⟩ | ⟨hc, hq, heq⟩ | hold
    · cases heq
    · cases heq
      exact ⟨hc, p, Ne.symm hq, hself⟩
    · obtain ⟨hc, p', hp', hj'⟩ := hR.backed q b ⟨j, hold⟩
      exact ⟨hc, p', hp', hgrows.joined hj'⟩
  · rcases hjoined q b hb with ⟨rfl, rfl⟩ | hold
    · obtain ⟨k, -, hrow'⟩ := hcarried hc q' hq'
      exact ⟨k, by rw [hrow', Function.update_self]⟩
    · exact hgrows.declared (hR.passedOn q b hold hc q' hq')
  · rw [hreserved]
    constructor
    · intro hb
      by_cases hq : q = p
      · subst hq
        rw [Function.update_self] at hb
        rcases Set.mem_insert_iff.mp hb with rfl | hold
        · exact hself
        · exact hgrows.joined ((hR.reserved q b).mp hold)
      · rw [Function.update_of_ne hq] at hb
        exact hgrows.joined ((hR.reserved q b).mp hb)
    · intro hb
      by_cases hq : q = p
      · subst hq
        rw [Function.update_self]
        rcases hjoined q b hb with ⟨-, rfl⟩ | hold
        · exact Set.mem_insert b _
        · exact Set.mem_insert_of_mem a ((hR.reserved q b).mpr hold)
      · rw [Function.update_of_ne hq]
        rcases hjoined q b hb with ⟨rfl, -⟩ | hold
        · exact absurd rfl hq
        · exact (hR.reserved q b).mpr hold

theorem Step.consistent (h : Step carried R R') (hR : Consistent carried R) :
    Consistent carried R' := by
  have hgrows := h.grows
  cases h with
  | register p i a _ hnew hrow hrows hreserved =>
    exact hR.register hgrows hnew hrow hrows hreserved
  | join p i a joined hat hrow hcarried hrows hreserved =>
    exact hR.join hgrows hat hrow hcarried hrows hreserved

theorem Path.consistent (h : Path carried R R') (hR : Consistent carried R) :
    Consistent carried R' := by
  induction h with
  | refl => exact hR
  | tail _ hstep ih => exact hstep.consistent ih

end AttributeRelay
