/-
Networks of nodes that send messages over the links between their ports.

Each node has states, inputs, ports and a step function of its own.  What a node has sent on a port
may come in on every port that is joined with it, at any time, any number of times and in any order,
or not at all: a step of the network is a step of one node, with a message that was sent.

* `Steps.invariant` — each node guarantees that it sends good messages only, as long as it can
  assume that it gets no others;
* `Steps.origins` — where the nodes make up no labels, every label that a node meets is one of a
  node from which there is a way to it.
-/
import Mathlib.Data.Set.Basic
import Mathlib.Logic.Function.Basic
import Mathlib.Logic.Relation

namespace Networks

/-- What the nodes do, and how they are joined. -/
structure Network (ι μ : Type*) (σ α π : ι → Type*) where
  step : ∀ a, σ a → α a → Option (σ a)
  /-- the message that an input brings in, and its port -/
  takes : ∀ a, α a → Option (π a × μ)
  /-- what the node has sent on a port -/
  sent : ∀ a, σ a → π a → Set μ
  joined : (Σ a, π a) → (Σ a, π a) → Prop

variable {ι μ κ : Type*} {σ α π : ι → Type*} {N : Network ι μ σ α π} {s s' : ∀ a, σ a} {a b : ι}

/-- The message of an input was sent to the port on which it comes in. -/
def Network.Delivers (N : Network ι μ σ α π) (s : ∀ a, σ a) (b : ι) (input : α b) : Prop :=
  ∀ q m, N.takes b input = some (q, m) →
    ∃ c : Σ a, π a, N.joined c ⟨b, q⟩ ∧ m ∈ N.sent c.1 (s c.1) c.2

/-- One node takes a step. -/
inductive Step [DecidableEq ι] (N : Network ι μ σ α π) : (∀ a, σ a) → (∀ a, σ a) → Prop
  | node {s : ∀ a, σ a} {b : ι} {input : α b} {t : σ b} (hdelivers : N.Delivers s b input)
      (hstep : N.step b (s b) input = some t) : Step N s (Function.update s b t)

/-- The network takes any number of steps. -/
def Steps [DecidableEq ι] (N : Network ι μ σ α π) : (∀ a, σ a) → (∀ a, σ a) → Prop :=
  Relation.ReflTransGen (Step N)

/-! ### Assumption and guarantee -/

section Invariant

variable [DecidableEq ι] {I : ∀ a, σ a → Prop} {M : (Σ a, π a) → Set μ}

theorem Step.invariant (hsent : ∀ a t p, I a t → N.sent a t p ⊆ M ⟨a, p⟩)
    (hstep : ∀ a t input t', I a t →
      (∀ q m, N.takes a input = some (q, m) → ∃ c, N.joined c ⟨a, q⟩ ∧ m ∈ M c) →
      N.step a t input = some t' → I a t')
    (hs : ∀ a, I a (s a)) (h : Step N s s') (a : ι) : I a (s' a) := by
  cases h with
  | @node b input t hdelivers ht =>
    by_cases ha : a = b
    · subst ha
      rw [Function.update_self]
      refine hstep a (s a) input t (hs a) (fun q m htakes => ?_) ht
      obtain ⟨c, hjoined, hm⟩ := hdelivers q m htakes
      exact ⟨c, hjoined, hsent c.1 (s c.1) c.2 (hs c.1) hm⟩
    · rw [Function.update_of_ne ha]
      exact hs a

/-- **What every node keeps, the network keeps**, where each node may assume that the messages it
gets are good, and sends good ones itself. -/
theorem Steps.invariant (hsent : ∀ a t p, I a t → N.sent a t p ⊆ M ⟨a, p⟩)
    (hstep : ∀ a t input t', I a t →
      (∀ q m, N.takes a input = some (q, m) → ∃ c, N.joined c ⟨a, q⟩ ∧ m ∈ M c) →
      N.step a t input = some t' → I a t')
    (hs : ∀ a, I a (s a)) (h : Steps N s s') : ∀ a, I a (s' a) := by
  induction h with
  | refl => exact hs
  | tail _ hlast ih => exact hlast.invariant hsent hstep ih

end Invariant

/-! ### Origins -/

/-- There is a way along the links from one node to another. -/
def Reaches (joined : (Σ a, π a) → (Σ a, π a) → Prop) : ι → ι → Prop :=
  Relation.ReflTransGen fun a b => ∃ p q, joined ⟨a, p⟩ ⟨b, q⟩

/-- The labels of the nodes from which there is a way to `a`. -/
def Network.origins (N : Network ι μ σ α π) (own : ι → Set κ) (a : ι) : Set κ :=
  {r | ∃ b, Reaches N.joined b a ∧ r ∈ own b}

theorem Network.own_subset_origins (N : Network ι μ σ α π) (own : ι → Set κ) (a : ι) :
    own a ⊆ N.origins own a := by
  intro r hr
  exact ⟨a, Relation.ReflTransGen.refl, hr⟩

theorem Network.origins_subset {own : ι → Set κ} {p : π a} {q : π b}
    (h : N.joined ⟨a, p⟩ ⟨b, q⟩) : N.origins own a ⊆ N.origins own b := by
  rintro r ⟨c, hreaches, hr⟩
  exact ⟨c, hreaches.tail ⟨p, q, h⟩, hr⟩

/-- **No label comes from nowhere.**  Where a node that knows the labels in `K`, its own among them,
sends no others, and learns no others unless it gets a message with one, every node knows only the
labels of nodes from which there is a way to it. -/
theorem Steps.origins [DecidableEq ι] {own : ι → Set κ} {label : μ → κ}
    {I : ∀ a, Set κ → σ a → Prop}
    (hsent : ∀ a K t p, own a ⊆ K → I a K t → ∀ m ∈ N.sent a t p, label m ∈ K)
    (hstep : ∀ a K t input t', own a ⊆ K → I a K t →
      (∀ q m, N.takes a input = some (q, m) → label m ∈ K) →
      N.step a t input = some t' → I a K t')
    (hs : ∀ a, I a (N.origins own a) (s a)) (h : Steps N s s') :
    ∀ a, I a (N.origins own a) (s' a) := by
  refine Steps.invariant (M := fun c => {m | label m ∈ N.origins own c.1}) ?_ ?_ hs h
  · intro a t p ht m hm
    exact hsent a _ t p (N.own_subset_origins own a) ht m hm
  · intro a t input t' ht htakes hstep'
    refine hstep a _ t input t' (N.own_subset_origins own a) ht (fun q m hm => ?_) hstep'
    obtain ⟨⟨b, p⟩, hjoined, hlabel⟩ := htakes q m hm
    exact Network.origins_subset hjoined hlabel

end Networks
