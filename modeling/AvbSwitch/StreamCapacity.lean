/-
How many streams the MSRP module can take in.

A value of a stream whose StreamID is in `stream_info_vars` is not received
(`receiveValue_cases`), and an entry is never given back.  So every value of a Talker or a
Listener uses up an entry for good:

* `streams_taken` — in a run that is defined the values of streams, of all frames on all ports
  together, have different StreamIDs, none of which was in use before; each takes an entry, and
  there are five of them at most.
-/
import AvbSwitch.MsrpCalls

namespace Msrp

open Octets

variable {n : ℕ} {env : Env n} {t t' u : State n} {p q : Fin n} {ref : MachineRef} {e : MrpEvent}
  {r : ℤ} {ids ids' : List (UInt32 × UInt32)}

/-! ### The stream table under events -/

/-- `stream_info_vars` is the same. -/
def SameStreams (t t' : State n) : Prop := t'.streamInfoVars = t.streamInfoVars

theorem SameStreams.refl (t : State n) : SameStreams t t := rfl

theorem SameStreams.trans (h : SameStreams t u) (h' : SameStreams u t') : SameStreams t t' :=
  Eq.trans h' h

theorem SameStreams.keepsEvent : KeepsEvent env SameStreams e := by
  refine keepsEvent_of_primitive refl trans (fun _ _ _ _ => rfl) (fun t p => ?_) fun _ _ _ _ => rfl
  rw [mrpReqTxOpportunity]
  split <;> rfl

theorem SameStreams.eventFrame : EventFrame env (SameStreams (n := n)) where
  refl := refl
  trans := trans
  machine _ _ _ _ := rfl
  failure _ _ := rfl
  timer t p action := (registrarTimer_tables t p action).1
  reservations h := h.streams
  record _ _ _ := rfl
  silent _ := keepsEvent

theorem SameStreams.madAttrEvent (h : Msrp.madAttrEvent env t q ref e = some (t', r)) :
    SameStreams t t' := eventFrame.madAttrEvent keepsEvent h

theorem SameStreams.madEvent (h : Msrp.madEvent env t q e = some t') : SameStreams t t' :=
  eventFrame.madEvent keepsEvent (fun _ _ _ => rfl) h

/-! ### Entries -/

/-- An entry in use has this StreamID. -/
def StreamKnown (t : State n) (id : UInt32 × UInt32) : Prop :=
  ∃ i, (t.streamInfoVars i).used = true ∧ (t.streamInfoVars i).streamID = id

/-- The entries of the array that are not in use. -/
def freeEntries (t : State n) : Finset (Fin 10) :=
  Finset.univ.filter fun i => (i : ℕ) < streamCount ∧ (t.streamInfoVars i).used = false

theorem freeEntries_card_le (t : State n) : (freeEntries t).card ≤ streamCount := by
  have hall : (Finset.univ.filter fun i : Fin 10 => (i : ℕ) < streamCount).card = streamCount := by
    decide
  rw [← hall]
  exact Finset.card_le_card (Finset.monotone_filter_right _ fun i _ hi => hi.1)

/-- From `t` to `t'` the streams `ids` have been taken in, one after another. -/
structure Took (ids : List (UInt32 × UInt32)) (t t' : State n) : Prop where
  count : ids.length + (freeEntries t').card = (freeEntries t).card
  nodup : ids.Nodup
  new : ∀ id ∈ ids, ¬ StreamKnown t id
  known : ∀ id, StreamKnown t' id ↔ StreamKnown t id ∨ id ∈ ids

theorem Took.of_same (h : SameStreams t t') : Took [] t t' := by
  rw [SameStreams] at h
  refine ⟨?_, List.nodup_nil, fun id hid => absurd hid List.not_mem_nil, fun id => ?_⟩
  · rw [freeEntries, h, List.length_nil, Nat.zero_add]
    rfl
  · rw [StreamKnown, h]
    exact (or_iff_left List.not_mem_nil).symm

theorem Took.append (h : Took ids t u) (h' : Took ids' u t') : Took (ids ++ ids') t t' := by
  refine ⟨?_, ?_, fun id hid => ?_, fun id => ?_⟩
  · have hcount := h.count
    have hcount' := h'.count
    rw [List.length_append]
    omega
  · refine h.nodup.append h'.nodup fun id hid hid' => ?_
    exact h'.new id hid' ((h.known id).mpr (Or.inr hid))
  · rcases List.mem_append.mp hid with hid | hid
    · exact h.new id hid
    · exact fun hknown => h'.new id hid ((h.known id).mpr (Or.inl hknown))
  · rw [h'.known, h.known, List.mem_append, or_assoc]

/-- What the steps of a run take in, the run takes in. -/
theorem Took.run {σ α : Type*} {step : σ → α → Option σ} (state : σ → State n)
    {taken : α → List (UInt32 × UInt32)}
    (hstep : ∀ {s a s'}, step s a = some s' → Took (taken a) (state s) (state s')) :
    ∀ {as : List α} {s s' : σ}, Runs.run step s as = some s' →
      Took (as.flatMap taken) (state s) (state s') := by
  intro as
  induction as with
  | nil =>
    intro s s' h
    rw [← Option.some_inj.mp h]
    exact Took.of_same (SameStreams.refl _)
  | cons a as ih =>
    intro s s' h
    obtain ⟨u, hu, hrun⟩ := Runs.run_cons_eq_some.mp h
    exact (hstep hu).append (ih hrun)

/-- A new stream takes a free entry. -/
theorem Took.setStream {k : Fin 10} {s : StreamInfo} (hk : vtssMsrpGetFreeStream t = some k)
    (habsent : StreamAbsent t s.streamID) (hs : s.used = true)
    (h : t'.streamInfoVars = Function.update t.streamInfoVars k s) : Took [s.streamID] t t' := by
  obtain ⟨hfind, hlt⟩ := Option.filter_eq_some_iff.mp hk
  have hunused : (t.streamInfoVars k).used = false := by simpa using List.find?_some hfind
  have hself : t'.streamInfoVars k = s := by rw [h, Function.update_self]
  have hother : ∀ i, i ≠ k → t'.streamInfoVars i = t.streamInfoVars i := fun i hi => by
    rw [h, Function.update_of_ne hi]
  refine ⟨?_, List.nodup_singleton _, fun id hid => ?_, fun id => ?_⟩
  · have hmem : k ∈ freeEntries t :=
      Finset.mem_filter.mpr ⟨Finset.mem_univ k, of_decide_eq_true hlt, hunused⟩
    have herase : freeEntries t' = (freeEntries t).erase k := by
      ext i
      rw [Finset.mem_erase, freeEntries, freeEntries, Finset.mem_filter, Finset.mem_filter]
      by_cases hi : i = k
      · subst hi
        simp [hself, hs]
      · simp [hother i hi, hi]
    have hcard := Finset.card_erase_add_one hmem
    rw [herase, List.length_singleton]
    omega
  · rw [List.mem_singleton.mp hid]
    rintro ⟨i, -, hi⟩
    exact habsent i hi
  · rw [List.mem_singleton]
    constructor
    · rintro ⟨i, hused, hi⟩
      by_cases hik : i = k
      · rw [hik, hself] at hi
        exact Or.inr hi.symm
      · rw [hother i hik] at hused hi
        exact Or.inl ⟨i, hused, hi⟩
    · rintro (⟨i, hused, hi⟩ | rfl)
      · have hik : i ≠ k := by
          rintro rfl
          rw [hunused] at hused
          cases hused
        exact ⟨i, by rw [hother i hik]; exact hused, by rw [hother i hik]; exact hi⟩
      · exact ⟨k, by rw [hself]; exact hs, by rw [hself]⟩

/-! ### Calls -/

/-- The StreamIDs of an item: that of a Talker or a Listener, and none for the others. -/
def RxItem.streamIDs (signed : Bool) : RxItem → List (UInt32 × UInt32)
  | .leaveAll _ => []
  | .value v => if v.attrType.IsStream then [v.wireID signed] else []

/-- The StreamIDs of the values of a frame. -/
def Call.streamIDs (signed : Bool) : Call n → List (UInt32 × UInt32)
  | .receive _ rxframe len => (rxItems signed rxframe len).flatMap (RxItem.streamIDs signed)
  | .tick | .moreWork => []

theorem deliver_streams {ptr : Option MachineRef} {c : ℤ} {s' : State n × Option MachineRef}
    (h : deliver env p t ptr c = some s') : SameStreams t s'.1 := by
  obtain ⟨ref, e, r, -, -, hevent, -⟩ := deliver_cases h
  exact SameStreams.madAttrEvent hevent

theorem receiveItem_took {s s' : State n × Option MachineRef} {item : RxItem}
    (h : receiveItem env p s item = some s') : Took (item.streamIDs env.charSigned) s.1 s'.1 := by
  rcases item with ty | v
  · obtain ⟨w, hw, rfl⟩ := Option.map_eq_some_iff.mp h
    obtain ⟨u, hu, hw⟩ := Option.bind_eq_some_iff.mp hw
    rw [madParticipantEvent_late env u p (by decide), Option.some_inj] at hw
    have hmachines : SameStreams s.1 u :=
      SameStreams.eventFrame.machineLoop SameStreams.keepsEvent (fun _ _ _ => rfl) hu
    exact Took.of_same (hw ▸ hmachines)
  · by_cases hstream : v.attrType.IsStream
    · obtain ⟨habsent, k, i, hk, hi⟩ := receiveValue_cases hstream h
      obtain ⟨info, hused, hid, heq⟩ := receiveValue_eq s.2 hstream habsent hk hi
      rw [receiveItem, heq] at h
      have hdelivered : SameStreams (s.1.registered p v k info i) s'.1 := deliver_streams h
      rw [RxItem.streamIDs, if_pos hstream, ← hid]
      exact Took.setStream hk (hid ▸ habsent) hused hdelivered
    · rw [receiveItem, receiveValue, if_pos (not_not.mp hstream)] at h
      have hdelivered : SameStreams (receiveDomain s.1 p v.firstValue) s'.1 := deliver_streams h
      rw [RxItem.streamIDs, if_neg hstream]
      exact Took.of_same hdelivered

theorem callPort_streams {s s' : Sending n} (h : callPort env s p = some s') :
    SameStreams s.state s'.state := by
  rw [callPort] at h
  obtain ⟨u, hu, h⟩ := Option.bind_eq_some_iff.mp h
  obtain ⟨v, hv, h⟩ := Option.bind_eq_some_iff.mp h
  have hleave : SameStreams s.state u := by
    rw [pollLeaveTimer] at hu
    split at hu
    · have hevents := SameStreams.madEvent hu
      exact hevents
    · exact Option.some_inj.mp hu ▸ SameStreams.refl _
  have hleaveall : SameStreams u v := by
    rw [pollLeaveallTimer] at hv
    split at hv
    · rw [madParticipantEvent_late env u p (by decide), Option.some_inj] at hv
      exact hv ▸ SameStreams.refl u
    · exact Option.some_inj.mp hv ▸ SameStreams.refl u
  have hpolled : SameStreams s.state v := hleave.trans hleaveall
  dsimp only at h
  split at h
  · obtain ⟨T, hT, rfl⟩ := Option.map_eq_some_iff.mp h
    obtain ⟨w, ptr, w', ptr', b, hw, -, hw', -, -, rfl⟩ := mrpTransmit_cases hT
    rw [madParticipantEvent_late env _ p (by decide), Option.some_inj] at hw
    have hcalled : SameStreams v w := hw ▸ SameStreams.refl v
    have hevents := SameStreams.madEvent hw'
    exact (hpolled.trans hcalled).trans hevents
  · exact Option.some_inj.mp h ▸ hpolled

theorem callMoreWork_streams {s s' : Sending n} (h : callMoreWork env s = some s') :
    SameStreams s.state s'.state :=
  Runs.run_invariant (I := fun u => SameStreams s.state u.state)
    (fun hu hstep => hu.trans (callPort_streams hstep)) (SameStreams.refl s.state) h

theorem tickPorts_streams (ps : List (Fin n)) (t : State n) :
    SameStreams t (ps.foldl tickPort t) := by
  induction ps generalizing t with
  | nil => exact SameStreams.refl t
  | cons p ps ih => exact ih (tickPort t p)

theorem call_took {s s' : Sending n} {c : Call n} (h : c.step env s = some s') :
    Took (c.streamIDs env.charSigned) s.state s'.state := by
  cases c with
  | receive p rxframe len =>
    obtain ⟨t', ht', rfl⟩ := Option.map_eq_some_iff.mp h
    obtain ⟨s', hrun, rfl⟩ := Option.map_eq_some_iff.mp ht'
    exact Took.run Prod.fst (fun hstep => receiveItem_took hstep) hrun
  | tick =>
    obtain ⟨u, hu, rfl⟩ := Option.map_eq_some_iff.mp h
    exact Took.of_same ((callMoreWork_streams hu).trans (tickPorts_streams _ u.state))
  | moreWork => exact Took.of_same (callMoreWork_streams h)

/-- **Five streams for good.**  In every run that is defined, the values of Talkers and Listeners
that the frames hold have different StreamIDs, each takes a free entry, and there are five of them
at most. -/
theorem streams_taken (env : Env n) (calls : List (Call n)) (s s' : Sending n)
    (hrun : Runs.run (Call.step env) s calls = some s') :
    let ids := calls.flatMap (Call.streamIDs env.charSigned)
    ids.Nodup ∧ (∀ id ∈ ids, ¬ StreamKnown s.state id ∧ StreamKnown s'.state id) ∧
      ids.length + (freeEntries s'.state).card = (freeEntries s.state).card ∧
      ids.length ≤ streamCount := by
  intro ids
  have htook : Took ids s.state s'.state :=
    Took.run Sending.state (fun hstep => call_took hstep) hrun
  have hle := freeEntries_card_le s.state
  have hcount := htook.count
  refine ⟨htook.nodup, fun id hid => ⟨htook.new id hid, (htook.known id).mpr (Or.inr hid)⟩, hcount, ?_⟩
  omega

/-- The frame of a Talker leaves four entries. -/
theorem streams_taken_talker :
    ∃ s', Runs.run (Call.step ⟨true, fun _ _ => false⟩) ⟨State.idle 2, []⟩
        [.receive ⟨0, Nat.two_pos⟩ talkerFrame 40, .tick] = some s' ∧
      ([Call.receive (⟨0, Nat.two_pos⟩ : Fin 2) talkerFrame 40, .tick].flatMap
        (Call.streamIDs true)).length ≤ streamCount := by
  have hsome : (Runs.run (Call.step ⟨true, fun _ _ => false⟩) ⟨State.idle 2, []⟩
      [.receive ⟨0, Nat.two_pos⟩ talkerFrame 40, .tick]).isSome = true := by decide +kernel
  obtain ⟨s', hs'⟩ := Option.isSome_iff_exists.mp hsome
  exact ⟨s', hs', (streams_taken _ _ ⟨State.idle 2, []⟩ s' hs').2.2.2⟩

end Msrp
