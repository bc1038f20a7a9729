/-
What is sent and what is read, as multisets of values.

The values of a list of messages agree, type by type (`perm_iff_pairs`), exactly when no
octet of packed events or Listener is read as negative, every Listener is ready, and the
StreamIDs and events of the Talkers and of the Listeners agree as multisets (`perm_iff`).
For the Listeners this means that those which start a vector have StreamID zero.
-/
import AvbSwitch.PduReadBack

namespace Msrp

open Octets Packed

/-! ### Multisets of values, type by type -/

theorem perm_iff_filter {α κ : Type*} [DecidableEq α] [DecidableEq κ] (f : α → κ) {l l' : List α} :
    l.Perm l' ↔ ∀ k, (l.filter fun a => f a = k).Perm (l'.filter fun a => f a = k) := by
  constructor
  · exact fun h k => h.filter _
  · intro h
    rw [List.perm_iff_count]
    intro a
    have hcount := (h (f a)).count_eq a
    rwa [List.count_filter (by simp), List.count_filter (by simp)] at hcount

/-- If one list of numbers is a permutation of another that it does not exceed anywhere,
they do not differ anywhere. -/
theorem eq_of_perm_of_le {α : Type*} {l : List α} {f g : α → ℤ} (hperm : (l.map f).Perm (l.map g))
    (hle : ∀ a ∈ l, f a ≤ g a) : ∀ a ∈ l, f a = g a := by
  by_contra hne
  simp only [not_forall] at hne
  obtain ⟨a, ha, hfg⟩ := hne
  have hlt : (l.map f).sum < (l.map g).sum :=
    List.sum_lt_sum f g hle ⟨a, ha, lt_of_le_of_ne (hle a ha) hfg⟩
  exact hlt.ne hperm.sum_eq

section Split

variable {signed : Bool} {gs : List Message} {x : Place}

/-- StreamID and event of a value. -/
abbrev StreamEvent := (UInt32 × UInt32) × AttrEvent

def Place.readPair (x : Place) : StreamEvent := (x.wireID, x.member.event)

def Place.sentPair (x : Place) : StreamEvent := (x.member.info.streamID, x.member.event)

/-- The places of one attribute type. -/
def placesOf (t : AttributeType) (gs : List Message) : List Place :=
  (places gs).filter fun x => x.member.attr = t

theorem mem_placesOf {t : AttributeType} :
    x ∈ placesOf t gs ↔ x ∈ places gs ∧ x.member.attr = t := by
  rw [placesOf, List.mem_filter, decide_eq_true_eq]

/-- A value of a stream with this type and parameter. -/
def streamValue (t : AttributeType) (parameter : Option ℤ) (v : StreamEvent) : Carried :=
  ⟨t, some v.1, v.2.index, parameter⟩

theorem AttrEvent.index_injective : Function.Injective AttrEvent.index := by
  intro a b
  cases a <;> cases b <;> decide

theorem streamValue_injective (t : AttributeType) (parameter : Option ℤ) :
    Function.Injective (streamValue t parameter) := by
  rintro ⟨a, e⟩ ⟨b, e'⟩ h
  simp only [streamValue, Carried.mk.injEq, Option.some_inj, Nat.cast_inj, true_and, and_true] at h
  rw [h.1, AttrEvent.index_injective h.2]

theorem place_attr (hgs : ∀ g ∈ gs, g.Formed signed) (hx : x ∈ places gs) :
    x.message.attr = x.member.attr := by
  obtain ⟨s, rest, heq, -, hattr, -, -⟩ := place_formed hgs hx
  rw [heq, hattr]

/-- Events and parameters being read back, what is left is a matter of the StreamIDs, type
by type. -/
theorem perm_iff_pairs (hgs : ∀ g ∈ gs, g.Formed signed)
    (hevent : ∀ x ∈ places gs, (x.rx signed).event = x.member.event.index)
    (hparam : ∀ x ∈ places gs, (x.rx signed).parameter =
      if x.member.attr = .listener then some (fourPackedReady : ℤ) else none)
    (hready : ∀ x ∈ places gs, x.member.attr = .listener → x.member.parameter = fourPackedReady) :
    ((places gs).map (Place.rx signed)).Perm ((places gs).map fun x => x.member.carried) ↔
      ((placesOf .talkerAdvertise gs).map Place.readPair).Perm
          ((placesOf .talkerAdvertise gs).map Place.sentPair) ∧
        ((placesOf .listener gs).map Place.readPair).Perm
          ((placesOf .listener gs).map Place.sentPair) := by
  have hrx : ∀ t, ((places gs).map (Place.rx signed)).filter (fun v => v.attr = t) =
      (placesOf t gs).map (Place.rx signed) := by
    intro t
    rw [List.filter_map, placesOf]
    congr 1
    refine List.filter_congr fun x hx => ?_
    simp only [Function.comp, (rx_attr_streamID hgs hx).1]
  have hsent : ∀ t, ((places gs).map fun x => x.member.carried).filter (fun v => v.attr = t) =
      (placesOf t gs).map fun x => x.member.carried := by
    intro t
    rw [List.filter_map]
    rfl
  -- a stream's values are those of the pairs, on both sides
  have hstream : ∀ t, t.IsStream → (((placesOf t gs).map (Place.rx signed)).Perm
      ((placesOf t gs).map fun x => x.member.carried) ↔
        ((placesOf t gs).map Place.readPair).Perm ((placesOf t gs).map Place.sentPair)) := by
    intro t ht
    set c : Option ℤ := if t = .listener then some (fourPackedReady : ℤ) else none with hc
    have hread : (placesOf t gs).map (Place.rx signed) =
        ((placesOf t gs).map Place.readPair).map (streamValue t c) := by
      rw [List.map_map]
      refine List.map_congr_left fun x hx => ?_
      obtain ⟨hmem, hattr⟩ := mem_placesOf.mp hx
      obtain ⟨h1, h2⟩ := rx_attr_streamID hgs hmem
      have hp := hparam x hmem
      rw [hattr] at h1 h2 hp
      rw [if_pos ht] at h2
      show Place.rx signed x = ⟨t, some x.wireID, x.member.event.index, c⟩
      rw [← h1, ← h2, ← hevent x hmem, hc, ← hp]
    have hdecl : ((placesOf t gs).map fun x => x.member.carried) =
        ((placesOf t gs).map Place.sentPair).map (streamValue t c) := by
      rw [List.map_map]
      refine List.map_congr_left fun x hx => ?_
      obtain ⟨hmem, hattr⟩ := mem_placesOf.mp hx
      rw [Decl.carried, hattr, if_pos ht]
      show _ = (⟨t, some x.member.info.streamID, x.member.event.index, c⟩ : Carried)
      congr 1
      rw [hc]
      by_cases hl : t = .listener
      · subst hl
        rw [if_pos rfl, hready x hmem hattr]
        rfl
      · rw [if_neg hl, if_neg (by simpa [hasFourpackedEvents] using hl)]
    rw [hread, hdecl, List.map_perm_map_iff (streamValue_injective t c)]
  rw [perm_iff_filter Carried.attr]
  simp only [hrx, hsent]
  constructor
  · exact fun h => ⟨(hstream _ (by decide)).mp (h _), (hstream _ (by decide)).mp (h _)⟩
  · rintro ⟨htalker, hlistener⟩ t
    cases t with
    | talkerAdvertise => exact (hstream _ (by decide)).mpr htalker
    | listener => exact (hstream _ (by decide)).mpr hlistener
    | talkerFailed =>
      -- a Talker Failed has no place
      have hnone : placesOf .talkerFailed gs = [] := by
        refine List.eq_nil_iff_forall_not_mem.mpr fun x hx => ?_
        obtain ⟨hmem, hattr⟩ := mem_placesOf.mp hx
        obtain ⟨s, rest, -, hs, hsx, -, -⟩ := place_formed hgs hmem
        exact hs (hsx.symm.trans hattr)
      rw [hnone]
      exact List.Perm.nil
    | domainVector =>
      refine List.Perm.of_eq (List.map_congr_left fun x hx => ?_)
      obtain ⟨hmem, hattr⟩ := mem_placesOf.mp hx
      obtain ⟨h1, h2⟩ := rx_attr_streamID hgs hmem
      have h3 := hevent x hmem
      have h4 := hparam x hmem
      rw [hattr] at h1 h2 h4
      rw [Decl.carried, hattr]
      show Place.rx signed x = ⟨.domainVector, none, x.member.event.index, none⟩
      rw [← h1, ← h3]
      show (⟨_, (x.rx signed).streamID, _, (x.rx signed).parameter⟩ : Carried) = _
      rw [h2, h4]
      rfl

/-- The round trip over given messages, in terms of octets, parameters and StreamIDs. -/
theorem perm_iff (hgs : ∀ g ∈ gs, g.Formed signed) :
    ((places gs).map (Place.rx signed)).Perm ((places gs).map fun x => x.member.carried) ↔
      (signed = true → (∀ g ∈ gs, ∀ j, wordAt 6 3 g.events j < 128) ∧
        ∀ x ∈ places gs, x.member.attr ≠ .listener) ∧
      (∀ x ∈ places gs, x.member.attr = .listener → x.member.parameter = fourPackedReady) ∧
      ((placesOf .talkerAdvertise gs).map Place.readPair).Perm
        ((placesOf .talkerAdvertise gs).map Place.sentPair) ∧
      ((placesOf .listener gs).map Place.readPair).Perm
        ((placesOf .listener gs).map Place.sentPair) := by
  have hread : ∀ x ∈ places gs, x.message.attr = x.member.attr ∧
      x.message.members[x.index]? = some x.member :=
    fun x hx => ⟨place_attr hgs hx, (mem_places.mp hx).2⟩
  -- the parameters read, once it is known that a signed `char` meets no Listener
  have hparam : (signed = true → ∀ x ∈ places gs, x.member.attr ≠ .listener) →
      ∀ x ∈ places gs, (x.rx signed).parameter =
        if x.member.attr = .listener then some (fourPackedReady : ℤ) else none := by
    intro hno x hx
    obtain ⟨hattr, hget⟩ := hread x hx
    obtain ⟨hnone, hsome, -⟩ := rx_parameter signed hattr hget
    by_cases hl : x.member.attr = .listener
    · rw [if_pos hl]
      exact hsome hl (Bool.eq_false_iff.mpr fun hs => hno hs x hx hl)
    · rw [if_neg hl]
      exact hnone hl
  constructor
  · intro hperm
    have hevent : ∀ x ∈ places gs, (x.rx signed).event = x.member.event.index := by
      have hmap := hperm.map Carried.event
      rw [List.map_map, List.map_map] at hmap
      exact eq_of_perm_of_le hmap fun x hx => rx_event_le (hread x hx).2
    have hno : signed = true → ∀ x ∈ places gs, x.member.attr ≠ .listener := by
      intro hs x hx hl
      -- the first Listener of a vector is read with a negative parameter
      obtain ⟨s, rest, heq, -, hattr, -, -⟩ := place_formed hgs hx
      have hfirst : (⟨x.message, s, 0⟩ : Place) ∈ places gs :=
        mem_places.mpr ⟨(mem_places.mp hx).1, by rw [heq]; rfl⟩
      obtain ⟨h1, h2⟩ := hread _ hfirst
      obtain ⟨z, hz, hrx⟩ := (rx_parameter signed h1 h2).2.2 (hattr.symm.trans hl) hs rfl
      obtain ⟨y, -, hy⟩ := List.mem_map.mp (hperm.subset (List.mem_map_of_mem hfirst))
      rw [← hy, Decl.carried] at hrx
      simp only at hrx
      split at hrx
      · rw [Option.some_inj] at hrx
        omega
      · exact absurd hrx (Option.some_ne_none z).symm
    have hready : ∀ x ∈ places gs, x.member.attr = .listener →
        x.member.parameter = fourPackedReady := by
      intro x hx hl
      have hmem : x.member.carried ∈ (places gs).map fun x => x.member.carried :=
        List.mem_map_of_mem hx
      obtain ⟨y, hy, hyx⟩ := List.mem_map.mp (hperm.symm.subset hmem)
      have hly : y.member.attr = .listener := by
        rw [← (rx_attr_streamID hgs hy).1, hyx]
        exact hl
      have hp := hparam hno y hy
      rw [hyx, if_pos hly, Decl.carried, hl] at hp
      exact Nat.cast_inj.mp (Option.some_inj.mp hp)
    exact ⟨fun hs => ⟨rx_event_forall.mp hevent hs, hno hs⟩, hready,
      (perm_iff_pairs hgs hevent (hparam hno) hready).mp hperm⟩
  · rintro ⟨hsign, hready, hpairs⟩
    exact (perm_iff_pairs hgs (rx_event_forall.mpr fun hs => (hsign hs).1)
      (hparam fun hs => (hsign hs).2) hready).mpr hpairs

end Split

/-! ### Listeners -/

/-- If the message is a Listener message, its first member has StreamID zero. -/
def ZeroStart (g : Message) : Prop :=
  g.attr = .listener → ∀ s ∈ g.members.head?, s.info.streamID = (0, 0)

section Listeners

variable {signed : Bool} {gs : List Message} {x : Place}

theorem shiftLeft_twice (w : UInt32) : w <<< 24 <<< 24 = 0 := by
  rw [← UInt32.toNat_inj]
  simp [UInt32.toNat_shiftLeft, Nat.shiftLeft_eq]
  omega

theorem wireID_wireID (id : UInt32 × UInt32) : wireID (wireID id) = (0, 0) := by
  simp only [wireID, shiftLeft_twice]

theorem wireID_of_index_zero (hx : x ∈ places gs) (h0 : x.index = 0) :
    x.wireID = wireID x.member.info.streamID := by
  obtain ⟨-, hget⟩ := mem_places.mp hx
  rcases hm : x.message.members with _ | ⟨s, rest⟩
  · rw [hm] at hget
    simp at hget
  · rw [hm, h0, List.getElem?_cons_zero, Option.some_inj] at hget
    rw [Place.wireID, hm, h0, vectorID, wireSuccessor, hget]
    show ((wireID _).1, (wireID _).2 + UInt32.ofNat 0) = _
    rw [show UInt32.ofNat 0 = 0 from rfl, UInt32.add_zero]

/-- Listeners come out right exactly when those that start a vector have StreamID zero. -/
theorem listener_pairs_iff (hgs : ∀ g ∈ gs, g.Formed signed) :
    ((placesOf .listener gs).map Place.readPair).Perm ((placesOf .listener gs).map Place.sentPair) ↔
      ∀ x ∈ placesOf .listener gs, x.index = 0 → x.member.info.streamID = (0, 0) := by
  have hpair : ∀ x ∈ placesOf .listener gs, x.index ≠ 0 → x.readPair = x.sentPair := by
    intro x hx h0
    obtain ⟨hmem, hl⟩ := mem_placesOf.mp hx
    rw [Place.readPair, Place.sentPair, listener_wireID hgs hmem hl h0]
  have hstart : ∀ x ∈ placesOf .listener gs, x.index = 0 →
      x.readPair = (wireID x.member.info.streamID, x.member.event) := fun x hx h0 => by
    rw [Place.readPair, wireID_of_index_zero (mem_placesOf.mp hx).1 h0]
  constructor
  · intro hperm
    set L := placesOf .listener gs
    set S := L.filter fun x => decide (x.index = 0) with hS
    set R := L.filter fun x => !decide (x.index = 0) with hR
    have hsplit : (S ++ R).Perm L := List.filter_append_perm _ L
    -- the others agree place by place, so the starters have to match among themselves
    have hrest : R.map Place.readPair = R.map Place.sentPair :=
      List.map_congr_left fun x hx => by
        obtain ⟨hxL, h0⟩ := List.mem_filter.mp hx
        exact hpair x hxL (by simpa using h0)
    have hstarters : (S.map Place.readPair).Perm (S.map Place.sentPair) := by
      have h := (hsplit.map Place.readPair).trans (hperm.trans (hsplit.map Place.sentPair).symm)
      rw [List.map_append, List.map_append, hrest] at h
      exact (List.perm_append_right_iff _).mp h
    have hwire : ∀ y ∈ S, ∃ z ∈ S, wireID z.member.info.streamID = y.member.info.streamID := by
      intro y hy
      obtain ⟨z, hz, hzy⟩ := List.mem_map.mp (hstarters.symm.subset (List.mem_map_of_mem hy))
      obtain ⟨hzL, h0⟩ := List.mem_filter.mp hz
      rw [hstart z hzL (by simpa using h0), Place.sentPair, Prod.mk.injEq] at hzy
      exact ⟨z, hz, hzy.1⟩
    intro x hx h0
    obtain ⟨y, hy, hyx⟩ := hwire x (List.mem_filter.mpr ⟨hx, by simpa using h0⟩)
    obtain ⟨z, -, hzy⟩ := hwire y hy
    rw [← hyx, ← hzy, wireID_wireID]
  · intro h
    refine List.Perm.of_eq (List.map_congr_left fun x hx => ?_)
    by_cases h0 : x.index = 0
    · rw [hstart x hx h0, Place.sentPair, h x hx h0]
      rfl
    · exact hpair x hx h0

theorem zeroStart_iff (hgs : ∀ g ∈ gs, g.Formed signed) :
    (∀ x ∈ placesOf .listener gs, x.index = 0 → x.member.info.streamID = (0, 0)) ↔
      ∀ g ∈ gs, ZeroStart g := by
  constructor
  · intro h g hg hl s hs
    have hget : g.members[0]? = some s := by
      rw [← List.head?_eq_getElem?]
      exact hs
    have hplace : (⟨g, s, 0⟩ : Place) ∈ places gs := mem_places.mpr ⟨hg, hget⟩
    have hattr : s.attr = .listener := (place_attr hgs hplace).symm.trans hl
    exact h ⟨g, s, 0⟩ (mem_placesOf.mpr ⟨hplace, hattr⟩) rfl
  · intro h x hx h0
    obtain ⟨hmem, hl⟩ := mem_placesOf.mp hx
    obtain ⟨hg, hget⟩ := mem_places.mp hmem
    rw [h0, ← List.head?_eq_getElem?] at hget
    exact h _ hg ((place_attr hgs hmem).trans hl) _ hget

end Listeners

end Msrp
