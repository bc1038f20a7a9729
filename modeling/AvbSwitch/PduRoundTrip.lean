/-
Which lists of declarations survive the round trip.

A Talker Failed is never merged and ends the parsing of the PDU.  Every Listener is read
as ready.  The StreamIDs read are those declared, as multisets, exactly when every
Listener that starts a vector has StreamID zero and the Talkers' StreamIDs happen to be
those that their vectors' first values leave.  Where a plain `char` is signed no Listener
survives, and no vector with an octet of packed events above 127.

`Recoverable` puts these conditions on the list, and `roundTrip_iff` says that they are
exact.
-/
import AvbSwitch.PduValues

namespace Msrp

open Octets Packed

/-! ### The conditions -/

/-- How many Listeners of the list have StreamID `(0, n)`. -/
def listenerCount (calls : List Decl) (n : UInt32) : ℕ :=
  calls.countP fun d => d.attr = .listener ∧ d.info.streamID = (0, n)

/-- A Listener after `pre` has StreamID zero, or continues a vector that starts with it:
there has been a Listener with the StreamID before its own that none has followed. -/
def ListenerFits (pre : List Decl) (d : Decl) : Prop :=
  d.info.id0 = 0 ∧
    (d.info.id1 = 0 ∨ listenerCount pre d.info.id1 < listenerCount pre (d.info.id1 - 1))

/-- A Talker goes into the first vector whose first value and length pass
`check_talker_merge`. -/
def joinTalker (signed : Bool) (d : Decl) : List (List Decl) → List (List Decl)
  | [] => [[d]]
  | v :: vs =>
    if v.head?.any fun s =>
        checkTalkerMerge signed d.info (fun i => (talkerFirstValue s.info).getD i 0) v.length then
      (v ++ [d]) :: vs
    else v :: joinTalker signed d vs

/-- The Talkers of the list, vector by vector. -/
def talkerVectors (signed : Bool) (calls : List Decl) : List (List Decl) :=
  (calls.filter fun d => d.attr = .talkerAdvertise).foldl (fun vs d => joinTalker signed d vs) []

/-- StreamIDs and events that are read of a vector. -/
def vectorPairs (v : List Decl) : List StreamEvent :=
  v.zipIdx.map fun x => (vectorID v x.2, x.1.event)

/-- The lists of declarations that encoding and parsing give back. -/
structure Recoverable (signed : Bool) (calls : List Decl) : Prop where
  noFailed : ∀ d ∈ calls, d.attr ≠ .talkerFailed
  ready : ∀ d ∈ calls, d.attr = .listener → d.parameter = fourPackedReady
  listeners : ∀ pre d, pre ++ [d] <+: calls → d.attr = .listener → ListenerFits pre d
  talkers : ((talkerVectors signed calls).flatMap vectorPairs).Perm
    ((calls.filter fun d => d.attr = .talkerAdvertise).map fun d => (d.info.streamID, d.event))
  octets : signed = true → (∀ d ∈ calls, d.attr ≠ .listener) ∧
    (∀ d ∈ calls, d.attr = .domainVector → d.event.index < 4) ∧
    ∀ v ∈ talkerVectors signed calls, ∀ j, wordAt 6 3 (v.map fun d => d.event.index) j < 128

/-! ### The messages without Talker Failed -/

section Messages

variable {signed : Bool} {calls : List Decl} {gs : List Message} {g : Message} {d : Decl}

theorem addDecl_cons : addDecl signed (g :: gs) d =
    if g.Joins signed d then g.add d :: gs else g :: addDecl signed gs d := by
  rw [addDecl, mergeInto]
  by_cases hj : g.Joins signed d
  · rw [if_pos hj, if_pos hj]
    rfl
  · rw [if_neg hj, if_neg hj, addDecl]
    cases mergeInto signed d gs <;> rfl

theorem messages_ne_nil (htypes : ∀ d ∈ calls, d.attr ≠ .talkerFailed) :
    ∀ g ∈ messages signed calls, g.members ≠ [] := by
  induction calls using List.reverseRecOn with
  | nil => simp [messages]
  | append_singleton calls d ih =>
    rw [List.forall_mem_append] at htypes
    have hold := ih htypes.1
    have hd : d.attr ≠ .talkerFailed := htypes.2 d (by simp)
    rw [messages_snoc]
    rcases addDecl_cases signed (messages signed calls) d with ⟨a, g, b, hgs, -, -, heq⟩ | ⟨-, heq⟩
    · rw [heq]
      intro r hr
      rcases List.mem_append.mp hr with hr | hr
      · exact hold r (by simp [hgs, hr])
      · rcases List.mem_cons.mp hr with rfl | hr
        · simp [Message.add]
        · exact hold r (by simp [hgs, hr])
    · rw [heq]
      intro r hr
      rcases List.mem_append.mp hr with hr | hr
      · exact hold r hr
      · rw [List.mem_singleton.mp hr, startMessage_members hd]
        exact List.cons_ne_nil d []

theorem readable_eq_self : ∀ {gs : List Message}, (∀ g ∈ gs, g.members ≠ []) → readable gs = gs := by
  intro gs
  induction gs with
  | nil => exact fun _ => rfl
  | cons g gs ih =>
    intro hgs
    rw [List.forall_mem_cons] at hgs
    rw [readable_cons_of_ne hgs.1, ih hgs.2]

/-- A message of the PDU starts with its first member, and the others are of its type. -/
theorem message_start (htypes : ∀ d ∈ calls, d.attr ≠ .talkerFailed)
    (hg : g ∈ messages signed calls) :
    ∃ s rest, g = ⟨s.attr, s.firstValue, s :: rest⟩ ∧ ∀ d ∈ g.members, d.attr = g.attr := by
  rcases messages_formed signed calls g hg with heq | ⟨s, rest, heq, -, hrest⟩
  · exact absurd (by rw [heq]; rfl) (messages_ne_nil htypes g hg)
  · refine ⟨s, rest, heq, fun d hd => ?_⟩
    rw [heq] at hd ⊢
    rcases List.mem_cons.mp hd with rfl | hd
    · rfl
    · obtain ⟨i, hi⟩ := List.mem_iff_getElem?.mp hd
      exact (hrest i d hi).1

/-- A Domain is never merged. -/
theorem domain_message (hg : g ∈ messages signed calls) (hattr : g.attr = .domainVector) : ∃ s, g.members = [s] := by
  rcases messages_formed signed calls g hg with heq | ⟨s, rest, heq, -, hrest⟩
  · rw [heq] at hattr
    exact absurd hattr (by decide)
  · rcases rest with _ | ⟨d, rest⟩
    · exact ⟨s, by rw [heq]⟩
    · obtain ⟨hd, hcheck⟩ := hrest 0 d rfl
      rw [heq] at hattr
      rw [Message.check, hd.trans hattr] at hcheck
      exact absurd hcheck Bool.false_ne_true

end Messages

/-! ### Listeners -/

section Listeners

variable {signed : Bool} {calls : List Decl} {gs : List Message} {g : Message} {d : Decl}

/-- Counting the members of messages by counting messages, where each has at most one. -/
theorem countP_flatMap_members {p : Decl → Bool} {q : Message → Bool} :
    ∀ {gs : List Message}, (∀ g ∈ gs, g.members.countP p = if q g then 1 else 0) →
      (gs.flatMap Message.members).countP p = gs.countP q := by
  intro gs
  induction gs with
  | nil => exact fun _ => rfl
  | cons g gs ih =>
    intro hgs
    rw [List.forall_mem_cons] at hgs
    rw [List.flatMap_cons, List.countP_append, List.countP_cons, hgs.1, ih hgs.2, Nat.add_comm]

/-- The numbers of elements that satisfy a property and a stronger one. -/
theorem countP_lt_countP_iff {α : Type*} {p q : α → Bool} {l : List α} (hqp : ∀ a, q a → p a) :
    l.countP q < l.countP p ↔ ∃ a ∈ l, p a ∧ ¬ q a := by
  have hq : l.countP q = ((l.filter p).filter q).length := by
    rw [List.filter_filter, List.countP_eq_length_filter]
    congr 1
    refine List.filter_congr fun a _ => ?_
    by_cases ha : q a
    · simp [ha, hqp a ha]
    · simp [ha]
  rw [hq, List.countP_eq_length_filter, List.length_filter_lt_length_iff_exists]
  simp only [List.mem_filter, and_assoc]

/-- The members of a Listener message that starts with StreamID zero are numbered. -/
theorem listener_members (htypes : ∀ d ∈ calls, d.attr ≠ .talkerFailed)
    (hg : g ∈ messages signed calls) (hl : g.attr = .listener) (hz : ZeroStart g) :
    g.members.map (fun d => d.info.streamID) =
      (List.range g.members.length).map fun i => (0, UInt32.ofNat i) := by
  obtain ⟨s, rest, heq, hattrs⟩ := message_start htypes hg
  have hs : s.info.streamID = (0, 0) := hz hl s (by rw [heq]; rfl)
  refine List.ext_getElem? fun i => ?_
  rw [List.getElem?_map, List.getElem?_map]
  by_cases hi : i < g.members.length
  · rw [List.getElem?_eq_getElem hi, List.getElem?_range hi]
    have hplace : (⟨g, g.members[i], i⟩ : Place) ∈ places (messages signed calls) :=
      mem_places.mpr ⟨hg, List.getElem?_eq_getElem hi⟩
    have hread : vectorID g.members i = (0, UInt32.ofNat i) := by
      rw [heq, vectorID, wireSuccessor, hs]
      exact Prod.ext rfl (UInt32.zero_add _)
    show some g.members[i].info.streamID = some (0, UInt32.ofNat i)
    rw [← hread, Option.some_inj]
    by_cases h0 : i = 0
    · subst h0
      rw [hread]
      simp only [heq, List.getElem_cons_zero, hs]
      rfl
    · exact (listener_wireID (messages_formed signed calls) hplace
        ((hattrs _ (List.getElem_mem hi)).trans hl) h0).symm
  · rw [List.getElem?_eq_none (by omega), List.getElem?_eq_none (by simp; omega)]
    rfl

theorem length_members_le (h : calls.length ≤ 24) (hg : g ∈ messages signed calls) :
    g.members.length ≤ 255 := by
  obtain ⟨-, -, -, hvalid, -⟩ := messages_of_few signed (fun _ => 0) h
  exact (hvalid g hg).few

/-- A Listener with StreamID `(0, n)` for every vector that is longer than `n`. -/
theorem listenerCount_eq (htypes : ∀ d ∈ calls, d.attr ≠ .talkerFailed) (h : calls.length ≤ 24)
    (hz : ∀ g ∈ messages signed calls, ZeroStart g) (n : UInt32) :
    listenerCount calls n = (messages signed calls).countP
      fun g => g.attr = .listener ∧ n.toNat < g.members.length := by
  rw [listenerCount, ← (messages_members signed htypes).1.countP_eq]
  refine countP_flatMap_members fun g hg => ?_
  obtain ⟨-, -, -, hattrs⟩ := message_start htypes hg
  have hlen := length_members_le h hg
  by_cases hl : g.attr = .listener
  · have hcount : (g.members.map fun d => d.info.streamID).countP (fun id => id = (0, n)) =
        if n.toNat < g.members.length then 1 else 0 := by
      rw [listener_members htypes hg hl (hz g hg), List.countP_map, ← List.count_range]
      refine List.countP_congr fun i hi => ?_
      have hlt : i < 4294967296 := by
        have := List.mem_range.mp hi
        omega
      simp only [Function.comp, decide_eq_true_eq, Prod.mk.injEq, true_and, ← UInt32.toNat_inj,
        UInt32.toNat_ofNat', beq_iff_eq]
      omega
    rw [List.countP_map] at hcount
    simp only [hl, true_and, decide_eq_true_eq, ← hcount]
    refine List.countP_congr fun d hd => ?_
    simp only [hattrs d hd, hl, true_and, Function.comp]
  · have hzero : g.members.countP
        (fun d => d.attr = .listener ∧ d.info.streamID = (0, n)) = 0 := by
      refine List.countP_eq_zero.mpr fun d hd => ?_
      rw [decide_eq_true_eq, hattrs d hd]
      exact fun hc => hl hc.1
    rw [hzero]
    simp [hl]

/-- Which Listener messages that start with StreamID zero take a Listener. -/
theorem joins_listener_iff (htypes : ∀ d ∈ calls, d.attr ≠ .talkerFailed) (h : calls.length ≤ 24)
    (hg : g ∈ messages signed calls) (hz : ZeroStart g) (hd : d.attr = .listener) :
    g.Joins signed d ↔
      g.attr = .listener ∧ d.info.id0 = 0 ∧ g.members.length = d.info.id1.toNat := by
  have hne := messages_ne_nil htypes g hg
  have hlen := length_members_le h hg
  rw [Message.Joins, hd]
  simp only [hne, false_or, ne_eq, reduceCtorEq, not_false_eq_true, true_and]
  refine and_congr_right fun hl => ?_
  obtain ⟨s, rest, heq, -⟩ := message_start htypes hg
  have hs : s.info.streamID = (0, 0) := hz hl s (by rw [heq]; rfl)
  have hfirst : firstValueStreamID (fun i => g.first.getD i 0) = (0, 0) := by
    have hattr : s.attr = .listener := by rw [heq] at hl; exact hl
    rw [heq, firstValueStreamID_eq (s.firstValue_getD (Or.inr hattr)), hs]
    rfl
  rw [Message.check, hd]
  simp only [checkListenerMerge, hfirst, decide_eq_true_eq]
  refine and_congr ⟨Eq.symm, Eq.symm⟩ ?_
  rw [UInt32.zero_add, ← UInt32.toNat_inj, UInt32.toNat_ofNat']
  omega

/-- All Listener messages start with StreamID zero after a call exactly when they did before
and the Listener, if it was one, fits. -/
theorem zeroStart_addDecl (htypes : ∀ e ∈ calls, e.attr ≠ .talkerFailed) (h : calls.length ≤ 24)
    (hd : d.attr ≠ .talkerFailed) :
    (∀ g ∈ addDecl signed (messages signed calls) d, ZeroStart g) ↔
      (∀ g ∈ messages signed calls, ZeroStart g) ∧ (d.attr = .listener → ListenerFits calls d) := by
  -- a vector that the Listener continues exists exactly when `ListenerFits` says so
  have hvector : (∀ g ∈ messages signed calls, ZeroStart g) → d.attr = .listener →
      (ListenerFits calls d ↔ d.info.streamID = (0, 0) ∨
        ∃ g ∈ messages signed calls, g.Joins signed d) := by
    intro hz hl
    have hjoins : (∃ g ∈ messages signed calls, g.Joins signed d) ↔ d.info.id0 = 0 ∧
        ∃ g ∈ messages signed calls, g.attr = .listener ∧ g.members.length = d.info.id1.toNat := by
      constructor
      · rintro ⟨g, hg, hj⟩
        obtain ⟨h1, h2, h3⟩ := (joins_listener_iff htypes h hg (hz g hg) hl).mp hj
        exact ⟨h2, g, hg, h1, h3⟩
      · rintro ⟨h2, g, hg, h1, h3⟩
        exact ⟨g, hg, (joins_listener_iff htypes h hg (hz g hg) hl).mpr ⟨h1, h2, h3⟩⟩
    have hcount : d.info.id1 ≠ 0 →
        (listenerCount calls d.info.id1 < listenerCount calls (d.info.id1 - 1) ↔
          ∃ g ∈ messages signed calls, g.attr = .listener ∧ g.members.length = d.info.id1.toNat) := by
      intro h0
      have hpos : d.info.id1.toNat ≠ 0 := fun hn => h0 (UInt32.toNat_inj.mp hn)
      have hpred : (d.info.id1 - 1).toNat + 1 = d.info.id1.toNat := by
        have hone : (1 : UInt32).toNat = 1 := rfl
        rw [UInt32.toNat_sub_of_le _ _ (by rw [UInt32.le_iff_toNat_le]; omega)]
        omega
      rw [listenerCount_eq htypes h hz, listenerCount_eq htypes h hz, countP_lt_countP_iff]
      · refine exists_congr fun g => and_congr_right fun hg => ?_
        simp only [decide_eq_true_eq]
        constructor
        · rintro ⟨⟨h1, h2⟩, h3⟩
          exact ⟨h1, by simp only [h1, true_and] at h3; omega⟩
        · rintro ⟨h1, h2⟩
          exact ⟨⟨h1, by omega⟩, fun hlt => by omega⟩
      · intro g hg
        simp only [decide_eq_true_eq] at hg ⊢
        exact ⟨hg.1, by omega⟩
    rw [ListenerFits, hjoins, StreamInfo.streamID, Prod.mk.injEq]
    by_cases h0 : d.info.id1 = 0
    · constructor
      · exact fun hf => Or.inl ⟨hf.1, h0⟩
      · exact fun hf => ⟨hf.elim And.left And.left, Or.inl h0⟩
    · simp only [h0, and_false, false_or, hcount h0]
  rcases addDecl_cases signed (messages signed calls) d with
    ⟨a, g, b, hgs, -, hj, heq⟩ | ⟨hnone, heq⟩
  · have hg : g ∈ messages signed calls := by simp [hgs]
    -- the message that grows keeps its first member
    have hhead : ZeroStart (g.add d) ↔ ZeroStart g := by
      obtain ⟨s, rest, hs, -⟩ := message_start htypes hg
      rw [hs]
      exact Iff.rfl
    have hall : (∀ r ∈ addDecl signed (messages signed calls) d, ZeroStart r) ↔
        ∀ r ∈ messages signed calls, ZeroStart r := by
      rw [heq, hgs]
      simp only [List.forall_mem_append, List.forall_mem_cons, hhead]
    rw [hall]
    exact ⟨fun hz => ⟨hz, fun hl => (hvector hz hl).mpr (Or.inr ⟨g, hg, hj⟩)⟩, And.left⟩
  · rw [heq, List.forall_mem_append, List.forall_mem_singleton]
    refine and_congr_right fun hz => ?_
    have hattr : (startMessage signed d).attr = d.attr := by
      rw [startMessage]
      split <;> rfl
    rw [ZeroStart, hattr, startMessage_members hd]
    refine forall_congr' fun hl => ?_
    rw [hvector hz hl]
    constructor
    · exact fun hs => Or.inl (hs d rfl)
    · rintro (hs | ⟨g, hg, hj⟩)
      · exact fun s hs' => Option.some_inj.mp hs' ▸ hs
      · exact absurd hj (hnone g hg)

theorem listeners_iff : ∀ {calls : List Decl}, (∀ d ∈ calls, d.attr ≠ .talkerFailed) →
    calls.length ≤ 24 → ((∀ g ∈ messages signed calls, ZeroStart g) ↔
      ∀ pre d, pre ++ [d] <+: calls → d.attr = .listener → ListenerFits pre d) := by
  intro calls
  induction calls using List.reverseRecOn with
  | nil => simp [messages]
  | append_singleton calls e ih =>
    intro htypes h
    rw [List.forall_mem_append, List.forall_mem_singleton] at htypes
    have hlen : calls.length ≤ 24 := by
      rw [List.length_append] at h
      omega
    rw [messages_snoc, zeroStart_addDecl htypes.1 hlen htypes.2, ih htypes.1 hlen]
    constructor
    · rintro ⟨hpre, he⟩ pre d hprefix
      rcases List.prefix_concat_iff.mp hprefix with heq | hle
      · obtain ⟨rfl, hde⟩ := List.append_inj' heq rfl
        rw [List.singleton_inj.mp hde]
        exact he
      · exact hpre pre d hle
    · intro hall
      exact ⟨fun pre d hle => hall pre d (List.prefix_concat_iff.mpr (Or.inr hle)),
        hall calls e (List.prefix_refl _)⟩

end Listeners

/-! ### Talkers and Domains -/

section Talkers

variable {signed : Bool} {calls : List Decl} {gs : List Message} {g : Message} {d : Decl}

/-- The vectors of the Talker messages. -/
def talkerMembers (gs : List Message) : List (List Decl) :=
  (gs.filter fun g => g.attr = .talkerAdvertise).map Message.members

theorem talkerMembers_cons : talkerMembers (g :: gs) =
    if g.attr = .talkerAdvertise then g.members :: talkerMembers gs else talkerMembers gs := by
  rw [talkerMembers, List.filter_cons]
  simp only [decide_eq_true_eq]
  split <;> rfl

theorem mem_talkerMembers {v : List Decl} :
    v ∈ talkerMembers gs ↔ ∃ g ∈ gs, g.attr = .talkerAdvertise ∧ g.members = v := by
  simp only [talkerMembers, List.mem_map, List.mem_filter, decide_eq_true_eq, and_assoc]

theorem startMessage_eq (hd : d.attr ≠ .talkerFailed) :
    startMessage signed d = ⟨d.attr, d.firstValue, [d]⟩ := by
  rw [startMessage, if_pos ⟨rfl, hd, Or.inl rfl⟩]
  rfl

/-- `doTx` puts a Talker where `joinTalker` does, and leaves the Talkers alone otherwise. -/
theorem talkerMembers_addDecl (hd : d.attr ≠ .talkerFailed) : ∀ {gs : List Message},
    (∀ g ∈ gs, ∃ s rest, g = ⟨s.attr, s.firstValue, s :: rest⟩) →
      talkerMembers (addDecl signed gs d) = if d.attr = .talkerAdvertise
        then joinTalker signed d (talkerMembers gs) else talkerMembers gs := by
  intro gs
  induction gs with
  | nil =>
    intro _
    show talkerMembers [startMessage signed d] = _
    rw [startMessage_eq hd, talkerMembers_cons]
    rfl
  | cons g gs ih =>
    intro hgs
    rw [List.forall_mem_cons] at hgs
    obtain ⟨⟨s, rest, hg⟩, hgs⟩ := hgs
    rw [addDecl_cons]
    by_cases ht : d.attr = .talkerAdvertise
    · rw [if_pos ht]
      by_cases hattr : g.attr = .talkerAdvertise
      · -- the two tests are the same
        have htest : g.Joins signed d ↔ (g.members.head?.any fun s =>
            checkTalkerMerge signed d.info (fun i => (talkerFirstValue s.info).getD i 0)
              g.members.length) = true := by
          have hs : s.attr = .talkerAdvertise := by rw [hg] at hattr; exact hattr
          rw [Message.Joins, Message.check, ht, hattr, hg, Decl.firstValue, hs]
          simp
        rw [talkerMembers_cons, if_pos hattr, joinTalker]
        by_cases hj : g.Joins signed d
        · rw [if_pos hj, if_pos (htest.mp hj), talkerMembers_cons,
            if_pos (show (g.add d).attr = .talkerAdvertise from hattr)]
          rfl
        · rw [if_neg hj, if_neg fun hc => hj (htest.mpr hc), talkerMembers_cons, if_pos hattr,
            ih hgs, if_pos ht]
      · rw [if_neg fun hj => hattr (hj.1.trans ht), talkerMembers_cons, if_neg hattr,
          talkerMembers_cons, if_neg hattr, ih hgs, if_pos ht]
    · rw [if_neg ht]
      by_cases hj : g.Joins signed d
      · have hattr : g.attr ≠ .talkerAdvertise := fun hc => ht (hj.1.symm.trans hc)
        rw [if_pos hj, talkerMembers_cons, talkerMembers_cons, if_neg hattr,
          if_neg (show (g.add d).attr ≠ .talkerAdvertise from hattr)]
      · rw [if_neg hj, talkerMembers_cons, talkerMembers_cons, ih hgs, if_neg ht]

theorem talkerMembers_messages (htypes : ∀ d ∈ calls, d.attr ≠ .talkerFailed) :
    talkerMembers (messages signed calls) = talkerVectors signed calls := by
  induction calls using List.reverseRecOn with
  | nil => rfl
  | append_singleton calls d ih =>
    rw [List.forall_mem_append, List.forall_mem_singleton] at htypes
    have hstart : ∀ g ∈ messages signed calls, ∃ s rest, g = ⟨s.attr, s.firstValue, s :: rest⟩ :=
      fun g hg => (message_start htypes.1 hg).imp fun s => Exists.imp fun rest => And.left
    rw [messages_snoc, talkerMembers_addDecl htypes.2 hstart, ih htypes.1, talkerVectors,
      talkerVectors, List.filter_append]
    by_cases ht : d.attr = .talkerAdvertise
    · rw [if_pos ht, List.filter_singleton, decide_eq_true ht, List.foldl_append]
      rfl
    · rw [if_neg ht, List.filter_singleton, decide_eq_false ht]
      simp

theorem placesOf_readPair : ∀ {gs : List Message}, (∀ g ∈ gs, ∀ d ∈ g.members, d.attr = g.attr) →
    (placesOf .talkerAdvertise gs).map Place.readPair =
      (talkerMembers gs).flatMap vectorPairs := by
  intro gs
  induction gs with
  | nil => exact fun _ => rfl
  | cons g gs ih =>
    intro hgs
    rw [List.forall_mem_cons] at hgs
    have hmem : ∀ x ∈ g.places, x.member.attr = g.attr := by
      intro x hx
      obtain ⟨y, hy, rfl⟩ := List.mem_map.mp hx
      exact hgs.1 _ (List.fst_mem_of_mem_zipIdx hy)
    have hsplit : placesOf .talkerAdvertise (g :: gs) =
        (g.places.filter fun x => x.member.attr = .talkerAdvertise) ++
          placesOf .talkerAdvertise gs := by
      rw [placesOf, places, List.flatMap_cons, List.filter_append]
      rfl
    rw [hsplit, List.map_append, ih hgs.2, talkerMembers_cons]
    by_cases ht : g.attr = .talkerAdvertise
    · rw [if_pos ht, List.flatMap_cons, List.filter_eq_self.mpr fun x hx => by
        rw [hmem x hx, ht]
        rfl]
      congr 1
      rw [Message.places, List.map_map]
      rfl
    · rw [if_neg ht, List.filter_eq_nil_iff.mpr fun x hx => by simpa [hmem x hx] using ht]
      rfl

theorem placesOf_sentPair (htypes : ∀ d ∈ calls, d.attr ≠ .talkerFailed) :
    ((placesOf .talkerAdvertise (messages signed calls)).map Place.sentPair).Perm
      ((calls.filter fun d => d.attr = .talkerAdvertise).map
        fun d => (d.info.streamID, d.event)) := by
  have hmap : (placesOf .talkerAdvertise (messages signed calls)).map Place.sentPair =
      (((places (messages signed calls)).map Place.member).filter
        fun d => d.attr = .talkerAdvertise).map fun d => (d.info.streamID, d.event) := by
    rw [List.filter_map, List.map_map]
    rfl
  rw [hmap, places_member]
  exact ((messages_members signed htypes).1.filter _).map _

/-- The octets of packed events, without Listeners. -/
theorem octets_iff (htypes : ∀ d ∈ calls, d.attr ≠ .talkerFailed)
    (hno : ∀ d ∈ calls, d.attr ≠ .listener) :
    (∀ g ∈ messages signed calls, ∀ j, wordAt 6 3 g.events j < 128) ↔
      (∀ d ∈ calls, d.attr = .domainVector → d.event.index < 4) ∧
        ∀ v ∈ talkerVectors signed calls, ∀ j,
          wordAt 6 3 (v.map fun d => d.event.index) j < 128 := by
  have hperm := (messages_members signed htypes).1
  -- the only octet of a Domain message
  have hdomain : ∀ e : AttrEvent, (∀ j, wordAt 6 3 [e.index] j < 128) ↔ e.index < 4 := by
    intro e
    constructor
    · intro h
      have h0 : e.index * 6 * 6 < 128 := by simpa [wordAt, word, digits] using h 0
      omega
    · intro he j
      by_cases h0 : j = 0
      · subst h0
        simp [wordAt, word, digits]
        omega
      · rw [wordAt, word_zero]
        · omega
        · intro i _
          rw [digits, List.getD_eq_getElem?_getD, List.getElem?_eq_none (by simp; omega)]
          rfl
  rw [← talkerMembers_messages htypes]
  constructor
  · intro h
    refine ⟨fun d hd hattr => ?_, fun v hv => ?_⟩
    · obtain ⟨g, hg, hdg⟩ := List.mem_flatMap.mp (hperm.symm.subset hd)
      obtain ⟨s, rest, -, hattrs⟩ := message_start htypes hg
      obtain ⟨e, he⟩ := domain_message hg ((hattrs d hdg).symm.trans hattr)
      have hde : d = e := List.mem_singleton.mp (he ▸ hdg)
      have hg' := h g hg
      rw [Message.events, he] at hg'
      exact hde ▸ (hdomain e.event).mp hg'
    · obtain ⟨g, hg, -, rfl⟩ := mem_talkerMembers.mp hv
      exact h g hg
  · rintro ⟨hdom, htalk⟩ g hg
    obtain ⟨s, rest, heq, -⟩ := message_start htypes hg
    have hs : s ∈ calls := hperm.subset (List.mem_flatMap.mpr ⟨g, hg, by rw [heq]; simp⟩)
    have hattr : g.attr = s.attr := by rw [heq]
    rcases ht : s.attr with _ | _ | _ | _
    · exact htalk _ (mem_talkerMembers.mpr ⟨g, hg, hattr.trans ht, rfl⟩)
    · exact absurd ht (htypes s hs)
    · exact absurd ht (hno s hs)
    · obtain ⟨e, he⟩ := domain_message hg (hattr.trans ht)
      have hse : s = e := List.mem_singleton.mp (by rw [← he, heq]; simp)
      rw [Message.events, he]
      exact (hdomain e.event).mpr (hse ▸ hdom s hs ht)

end Talkers

/-! ### The round trip -/

section RoundTrip

variable {signed : Bool} {calls : List Decl}

/-- A Talker Failed is not read back. -/
theorem noFailed_of_perm (hperm : ((places (readable (messages signed calls))).map
    (Place.rx signed)).Perm (calls.map Decl.carried)) : ∀ d ∈ calls, d.attr ≠ .talkerFailed := by
  intro d hd hfailed
  have hgs : ∀ g ∈ readable (messages signed calls), g.Formed signed := fun g hg =>
    messages_formed signed calls g ((List.takeWhile_sublist _).subset hg)
  obtain ⟨x, hx, hxd⟩ := List.mem_map.mp (hperm.symm.subset (List.mem_map_of_mem hd))
  obtain ⟨s, rest, -, hs, hattr, -, -⟩ := place_formed hgs hx
  have hread : (x.rx signed).attr = .talkerFailed := by
    rw [hxd]
    exact hfailed
  rw [(rx_attr_streamID hgs hx).1, hattr] at hread
  exact hs hread

theorem readable_perm_iff (h : calls.length ≤ 24) :
    ((places (readable (messages signed calls))).map (Place.rx signed)).Perm
      (calls.map Decl.carried) ↔ Recoverable signed calls := by
  by_cases htypes : ∀ d ∈ calls, d.attr ≠ .talkerFailed
  swap
  · exact ⟨fun hperm => absurd (noFailed_of_perm hperm) htypes,
      fun hrec => absurd hrec.noFailed htypes⟩
  have hgs := messages_formed signed calls
  have hmembers := (messages_members signed htypes).1
  have hsent : ((places (messages signed calls)).map fun x => x.member.carried).Perm
      (calls.map Decl.carried) := by
    have hmap : ((places (messages signed calls)).map fun x => x.member.carried) =
        ((places (messages signed calls)).map Place.member).map Decl.carried := by
      rw [List.map_map]
      rfl
    rw [hmap, places_member]
    exact hmembers.map _
  -- the places are the calls, as far as properties of declarations go
  have hplaces : ∀ P : Decl → Prop,
      (∀ x ∈ places (messages signed calls), P x.member) ↔ ∀ d ∈ calls, P d := by
    intro P
    rw [← places_member] at hmembers
    constructor
    · intro hall d hd
      obtain ⟨x, hx, rfl⟩ := List.mem_map.mp (hmembers.symm.subset hd)
      exact hall x hx
    · exact fun hall x hx => hall _ (hmembers.subset (List.mem_map_of_mem hx))
  have hlisteners := (listener_pairs_iff hgs).trans
    ((zeroStart_iff hgs).trans (listeners_iff htypes h))
  have htalkers : ((placesOf .talkerAdvertise (messages signed calls)).map Place.readPair).Perm
      ((placesOf .talkerAdvertise (messages signed calls)).map Place.sentPair) ↔
      ((talkerVectors signed calls).flatMap vectorPairs).Perm
        ((calls.filter fun d => d.attr = .talkerAdvertise).map
          fun d => (d.info.streamID, d.event)) := by
    have hattrs : ∀ g ∈ messages signed calls, ∀ d ∈ g.members, d.attr = g.attr := by
      intro g hg
      obtain ⟨-, -, -, hattrs⟩ := message_start htypes hg
      exact hattrs
    rw [placesOf_readPair hattrs, talkerMembers_messages htypes]
    exact (placesOf_sentPair htypes).congr_right _
  rw [readable_eq_self (messages_ne_nil htypes), ← hsent.congr_right, perm_iff hgs,
    hplaces fun d => d.attr ≠ .listener,
    hplaces fun d => d.attr = .listener → d.parameter = fourPackedReady, htalkers, hlisteners]
  constructor
  · rintro ⟨hsign, hready, htalk, hlisten⟩
    exact ⟨htypes, hready, hlisten, htalk, fun hs =>
      ⟨(hsign hs).2, (octets_iff htypes (hsign hs).2).mp (hsign hs).1⟩⟩
  · intro hrec
    exact ⟨fun hs => ⟨(octets_iff htypes (hrec.octets hs).1).mpr (hrec.octets hs).2,
      (hrec.octets hs).1⟩, hrec.ready, hrec.talkers, hrec.listeners⟩

/-- Encoding and parsing at most 24 declarations gives them back exactly when the list is
recoverable. -/
theorem roundTrip_iff (m : Mem) (h : calls.length ≤ 24) :
    RoundTrip signed m calls ↔ Recoverable signed calls :=
  (roundTrip_iff_readable m h).trans (readable_perm_iff h)

/-- A ready Listener and a Domain with StreamID zero come back, if a `char` is unsigned. -/
theorem roundTrip_iff_two : RoundTrip false (fun _ => 0)
    [⟨.listener, .zero, .joinIn, fourPackedReady⟩, ⟨.domainVector, .zero, .lv, 0⟩] := by
  refine (roundTrip_iff (fun _ => 0) (by decide)).mpr ⟨?_, ?_, ?_, ?_, ?_⟩
  · simp
  · simp
  · intro pre d hprefix _
    have hd := hprefix.subset (List.mem_append_right pre (List.mem_singleton_self d))
    rcases List.mem_cons.mp hd with rfl | hd
    · exact ⟨rfl, Or.inl rfl⟩
    · rw [List.mem_singleton.mp hd]
      exact ⟨rfl, Or.inl rfl⟩
  · exact List.Perm.nil
  · exact fun hs => absurd hs Bool.false_ne_true

/-- A single Talker Advertise does not survive: of its StreamID the lowest octets of the
words are sent, in the place of the highest ones. -/
theorem roundTrip_loses_streamID :
    let talker : Decl :=
      ⟨.talkerAdvertise, { StreamInfo.zero with id0 := 0x00112233, id1 := 0x44550001 }, .new, 0⟩
    ¬ RoundTrip false (fun _ => 0) [talker] ∧ ¬ RoundTrip true (fun _ => 0) [talker] := by
  intro talker
  have hread : ∀ signed, RoundTrip signed (fun _ => 0) [talker] →
      (talkerVectors signed [talker]).flatMap vectorPairs =
        [(talker.info.streamID, talker.event)] := by
    intro signed hround
    have hrec := (readable_perm_iff (by simp)).mp ((roundTrip_iff_readable _ (by simp)).mp hround)
    exact List.perm_singleton.mp hrec.talkers
  -- the vector of the one Talker is read with StreamID `(0x33000000, 0x01000000)`
  exact ⟨fun hround => absurd (hread false hround) (by decide),
    fun hround => absurd (hread true hround) (by decide)⟩

end RoundTrip

end Msrp
