/-
The MSRP module as a relay of attributes.

`relayOf` reads the tables of a state as a relay: the machines in use are its entries, a
registration being joined unless its registrar is in `MT`, and the reservations in use are what is
reserved.  Kinds that are carried are those of Talkers.

* `madAttrEvent_path` — the event of a value takes the relay a step, or none;
* `receiveItem_path` — so does a value, and a LeaveAll none;
* `calls_path` — every run of calls is a path of the relay (refinement);
* `calls_relayed` — from empty tables, in every state that a run reaches: the declarations are those
  of the Talkers that other ports have joined, and the reservations those of what the port has
  joined itself.  Listeners are declared nowhere;
* `registration_permanent` — what has been joined, declared or reserved remains so, whatever else is
  received: no leave, no LeaveAll and no timer takes it back.
-/
import AvbSwitch.AttributeRelay
import AvbSwitch.DeclarationUniqueness
import AvbSwitch.MsrpCalls
import AvbSwitch.ReservationTable
import AvbSwitch.TimerRuns

namespace Msrp

open AttributeRelay

variable {n : ℕ} {env : Env n} {t t' u : State n} {p q : Fin n} {i : Fin 24} {ref x : MachineRef}
  {e : MrpEvent} {r : ℤ}

/-! ### The tables as a relay -/

/-- A type and a StreamID. -/
abbrev StreamAttribute : Type := AttributeType × (UInt32 × UInt32)

/-- What a machine holds.  A registration is joined unless its registrar is in `MT`. -/
def MadMachine.entry (m : MadMachine) : Option (Entry AttributeType (UInt32 × UInt32)) :=
  if m.used then
    match m.attrDir with
    | .reg => some (.registration (m.attributeType, m.streamID) (m.regState ≠ .MT))
    | .dec => some (.declaration (m.attributeType, m.streamID))
  else none

/-- The tables of a state. -/
def relayOf (t : State n) : Relay (Fin n) (Fin 24) AttributeType (UInt32 × UInt32) where
  table p i := (t.machine p (.slot i)).entry
  reserved p := {a : StreamAttribute | Reserved t a.2 p a.1}

theorem MadMachine.entry_core (m : MadMachine) : m.core.entry = m.entry := rfl

theorem entry_of_unused {m : MadMachine} (h : m.used = false) : m.entry = none := by
  rw [MadMachine.entry, h]
  rfl

theorem entry_registration {m : MadMachine} {a : StreamAttribute} {joined : Bool} :
    m.entry = some (.registration a joined) ↔ m.used = true ∧ m.attrDir = .reg ∧
      a = (m.attributeType, m.streamID) ∧ joined = decide (m.regState ≠ .MT) := by
  rw [MadMachine.entry]
  cases hused : m.used with
  | false => simp
  | true =>
    cases hdir : m.attrDir with
    | reg =>
      simp only [if_true, Option.some_inj, Entry.registration.injEq, true_and]
      exact and_congr eq_comm eq_comm
    | dec => simp

theorem entry_declaration {m : MadMachine} {a : StreamAttribute} :
    m.entry = some (.declaration a) ↔ m.used = true ∧ m.attrDir = .dec ∧
      a = (m.attributeType, m.streamID) := by
  rw [MadMachine.entry]
  cases hused : m.used with
  | false => simp
  | true =>
    cases hdir : m.attrDir with
    | reg => simp
    | dec =>
      simp only [if_true, Option.some_inj, Entry.declaration.injEq, true_and]
      exact eq_comm

/-- The stream table and the reservations are the same, and of the machines in the slots only
applicant states have changed. -/
structure SameTables (t t' : State n) : Prop where
  streams : t'.streamInfoVars = t.streamInfoVars
  reservations : t'.reservations = t.reservations
  slots : ∀ q i, (t'.machine q (.slot i)).core = (t.machine q (.slot i)).core

theorem SameCore.tables (h : SameCore t t') : SameTables t t' :=
  ⟨h.streams, h.reservations, fun q i => h.core q (.slot i)⟩

theorem SameTables.refl (t : State n) : SameTables t t := ⟨rfl, rfl, fun _ _ => rfl⟩

theorem SameTables.trans (h : SameTables t u) (h' : SameTables u t') : SameTables t t' :=
  ⟨h'.streams.trans h.streams, h'.reservations.trans h.reservations,
    fun q i => (h'.slots q i).trans (h.slots q i)⟩

theorem SameTables.record (t : State n) (x : Record n) : SameTables t (t.record x) :=
  ⟨rfl, rfl, fun _ _ => rfl⟩

theorem SameTables.setPort {pp : Participant}
    (h : ∀ i, pp.machine (.slot i) = (t.ports p).machine (.slot i)) : SameTables t (t.setPort p pp) := by
  refine ⟨rfl, rfl, fun q i => ?_⟩
  by_cases hq : q = p
  · rw [hq, State.machine, State.setPort_ports_self, h]
    rfl
  · rw [State.machine, State.setPort_ports_of_ne hq]
    rfl

theorem relayOf_congr (h : SameTables t t') : relayOf t' = relayOf t := by
  have htable : (relayOf t').table = (relayOf t).table := by
    funext q j
    show (t'.machine q (.slot j)).entry = (t.machine q (.slot j)).entry
    rw [← MadMachine.entry_core, h.slots, MadMachine.entry_core]
  have hreserved : (relayOf t').reserved = (relayOf t).reserved := by
    funext q
    show {a : StreamAttribute | Reserved t' a.2 q a.1} = {a : StreamAttribute | Reserved t a.2 q a.1}
    simp only [Reserved, ReservedBy, h.reservations]
  rw [relayOf, relayOf, Relay.mk.injEq]
  exact ⟨htable, hreserved⟩

/-! ### Orderly tables -/

/-- The registrar states that the events of values lead to. -/
def RegistrarState.Reached (s : RegistrarState) : Prop := s = .MT ∨ s = .IN ∨ s = .LV

instance (s : RegistrarState) : Decidable s.Reached := inferInstanceAs (Decidable (_ ∨ _ ∨ _))

/-- A registration has its stream in an entry that is in use. -/
structure MadMachine.Registers (m : MadMachine) (t : State n) : Prop where
  reached : m.regState.Reached
  stream : m.attributeType.IsStream
  info : ∃ k, m.attributeInfo = some k ∧ (t.streamInfoVars k).used = true ∧
    (t.streamInfoVars k).streamID = m.streamID

structure Orderly (t : State n) : Prop where
  registrations : ∀ p i, (t.machine p (.slot i)).used = true → (t.machine p (.slot i)).attrDir = .reg →
    (t.machine p (.slot i)).Registers t
  consistent : Consistent AttributeType.IsTalker (relayOf t)

theorem used_of_core {a b : MadMachine} (h : a.core = b.core) : a.used = b.used := by
  rw [MadMachine.eq_withAppState h]
  rfl

theorem attrDir_of_core {a b : MadMachine} (h : a.core = b.core) : a.attrDir = b.attrDir := by
  rw [MadMachine.eq_withAppState h]
  rfl

theorem Registers.congr {a b : MadMachine} (h : a.core = b.core) (hb : b.Registers t)
    (hstreams : t'.streamInfoVars = t.streamInfoVars) : a.Registers t' := by
  obtain ⟨hreached, hstream, k, hk, hused, hid⟩ := hb
  rw [MadMachine.eq_withAppState h]
  exact ⟨hreached, hstream, k, hk, by rw [hstreams]; exact hused, by rw [hstreams]; exact hid⟩

theorem Orderly.congr (ht : Orderly t) (h : SameTables t t') : Orderly t' := by
  refine ⟨fun p i hused hdir => ?_, relayOf_congr h ▸ ht.consistent⟩
  have hcore := h.slots p i
  rw [used_of_core hcore] at hused
  rw [attrDir_of_core hcore] at hdir
  exact Registers.congr hcore (ht.registrations p i hused hdir) h.streams

/-! ### Events of registrations -/

/-- The events that values are passed on with. -/
def MrpEvent.Digit (e : MrpEvent) : Prop := e.index < 6

instance (e : MrpEvent) : Decidable e.Digit := inferInstanceAs (Decidable (_ < _))

/-- No event of a value makes a registrar leave, and it joins exactly if it leaves `MT` or if the event
is New. -/
theorem registrarEntry_digit : ∀ (s : RegistrarState) (e : MrpEvent), s.Reached → e.Digit →
    (registrarEntry s e).state ≠ .invalid → (registrarEntry s e).state.Reached ∧
      ¬ IsLeave (registrarEntry s e).action ∧
      (IsJoin (registrarEntry s e).action → (registrarEntry s e).state = .IN) ∧
      (¬ IsJoin (registrarEntry s e).action → ((registrarEntry s e).state = .MT ↔ s = .MT)) := by
  decide +kernel

/-- The indications of a stream's registration that does not leave. -/
theorem registrarIndication_registration {k : Fin 10} {action : Action}
    (hstream : (t.machine p ref).attributeType.IsStream)
    (hk : (t.machine p ref).attributeInfo = some k) (hleave : ¬ IsLeave action)
    (h : registrarIndication env t p ref action = some u) :
    ¬ IsJoin action ∧ u = t ∨
      IsJoin action ∧ ∃ w, msrpMadJoinInd t p (t.machine p ref) = some (w, 1) ∧
        Joined (t.machine p ref) k (otherPorts p) w u := by
  rcases registrarIndication_cases h with ⟨hj, w, s, hind, hcase⟩ | ⟨hl, -⟩ | ⟨hj, -, rfl⟩
  · have hs : s = 1 := by
      rcases msrpMadJoinInd_cases hind with ⟨-, -, hs⟩ | ⟨-, hnone, -⟩ | ⟨-, -, -, hs, -⟩
      · exact hs
      · rw [hk] at hnone
        cases hnone
      · exact hs
    subst hs
    rcases hcase with ⟨hneg, -⟩ | ⟨-, new, hprop⟩
    · omega
    · exact Or.inr ⟨hj, w, hind, msrpMapJoinPropagate_joined hstream hk hprop⟩
  · exact absurd hl hleave
  · exact Or.inl ⟨hj, rfl⟩

/-- What the event of a value leaves: the state after the indications, and the registrar's state. -/
structure EventResult (t u t' : State n) (p : Fin n) (i : Fin 24) (s : RegistrarState) : Prop where
  reached : s.Reached
  streams : t'.streamInfoVars = u.streamInfoVars
  reservations : t'.reservations = u.reservations
  self : (t'.machine p (.slot i)).core = ((t.machine p (.slot i)).withRegState s).core
  others : ∀ q x, ¬ (q = p ∧ x = .slot i) → (t'.machine q x).core = (u.machine q x).core

/-- If the registrar joins, the join is indicated and goes to the other ports, and otherwise nothing
but the registrar's state changes. -/
theorem madAttrEvent_registration {k : Fin 10} (ht : Orderly t) (hdigit : e.Digit)
    (hused : (t.machine p (.slot i)).used = true) (hdir : (t.machine p (.slot i)).attrDir = .reg)
    (hk : (t.machine p (.slot i)).attributeInfo = some k)
    (h : madAttrEvent env t p (.slot i) e = some (t', r)) :
    (∃ s, EventResult t t t' p i s ∧ (s = .MT ↔ (t.machine p (.slot i)).regState = .MT)) ∨
      ∃ w u, msrpMadJoinInd (t.record (.madAttrEvent p (.slot i) e)) p (t.machine p (.slot i)) =
          some (w, 1) ∧
        Joined (t.machine p (.slot i)) k (otherPorts p) w u ∧ EventResult t u t' p i .IN := by
  have hregisters := ht.registrations p i hused hdir
  obtain ⟨v, hv, happ⟩ := madAttrEvent_reg hdir h
  have happ' := (applicant_appOnly happ).sameCore
  rcases registrar_cases hv with ⟨-, rfl⟩ | ⟨hvalid, z, hz, rfl⟩
  · exact Or.inl ⟨_, ⟨hregisters.reached, happ'.streams, happ'.reservations, happ'.core p _,
      fun q x _ => happ'.core q x⟩, Iff.rfl⟩
  · rw [State.record_machine] at hvalid hz
    obtain ⟨hreached, hleave, hin, hmt⟩ :=
      registrarEntry_digit _ e hregisters.reached hdigit hvalid
    -- what follows the indications writes the registrar's state and a timer
    have hresult : z.machine p (.slot i) = t.machine p (.slot i) →
        EventResult t z t' p i (registrarEntry (t.machine p (.slot i)).regState e).state := by
      intro hself
      have htables := registrarTimer_tables z p
        (registrarEntry (t.machine p (.slot i)).regState e).action
      refine ⟨hreached, happ'.streams.trans htables.1, happ'.reservations.trans htables.2, ?_,
        fun q x hne => ?_⟩
      · rw [happ'.core, State.setRegState, State.setMachine_machine_self, registrarTimer_machine, hself]
        rfl
      · rw [happ'.core, State.setRegState, State.setMachine_machine, if_neg hne,
          registrarTimer_machine]
    rcases registrarIndication_registration (t := t.record (.madAttrEvent p (.slot i) e))
      hregisters.stream hk hleave hz with ⟨hj, rfl⟩ | ⟨hj, w, hw, hjoined⟩
    · have hr := hresult rfl
      exact Or.inl ⟨_, ⟨hr.reached, hr.streams, hr.reservations, hr.self, hr.others⟩, hmt hj⟩
    · refine Or.inr ⟨w, z, hw, hjoined, hin hj ▸ hresult ?_⟩
      rw [hjoined.outside p (fun hmem => mem_otherPorts.mp hmem rfl),
        (msrpMadJoinInd_reservationsOnly hw).machine]
      rfl

/-! ### Reservations and declarations of a join -/

theorem ofInt_index_injective : ∀ ty ty' : AttributeType,
    UInt32.ofInt ty.index = UInt32.ofInt ty'.index → ty = ty' := by
  intro ty ty' h
  cases ty <;> cases ty' <;> first | rfl | exact absurd h (by decide)

/-- A join indication reserves what has been joined, and nothing else. -/
theorem reserved_joinInd {m : MadMachine} {k : Fin 10} (hstream : m.attributeType.IsStream)
    (hk : m.attributeInfo = some k) (h : msrpMadJoinInd t p m = some (u, r)) (q : Fin n)
    (b : StreamAttribute) : Reserved u b.2 q b.1 ↔
      q = p ∧ b = (m.attributeType, (t.streamInfoVars k).streamID) ∨ Reserved t b.2 q b.1 := by
  rcases msrpMadJoinInd_cases h with ⟨hd, -, -⟩ | ⟨-, hnone, -, -⟩ | ⟨k', -, hk', -, hcase⟩
  · exact absurd hd hstream
  · rw [hk] at hnone
    cases hnone
  · obtain rfl := Option.some_inj.mp (hk.symm.trans hk')
    rcases hcase with ⟨rfl, j, hj⟩ | ⟨-, j, hj, rfl⟩
    · refine ⟨Or.inr, ?_⟩
      rintro (⟨rfl, rfl⟩ | hb)
      · exact ⟨j, reservedBy_of_find hj⟩
      · exact hb
    · obtain ⟨hused, hid, htype, hport⟩ := @madeReservation_key n p m.attributeType
        (t.streamInfoVars k) m.fourVectorParameter hstream
      have hfree := unused_of_free hj
      constructor
      · rintro ⟨l, hl⟩
        by_cases hlj : l = j
        · subst hlj
          rw [ReservedBy, State.setReservation_self, hid, htype, hport] at hl
          refine Or.inl ⟨(Option.some_inj.mp hl.2.2.2).symm, ?_⟩
          rw [Prod.ext_iff]
          exact ⟨(ofInt_index_injective _ _ hl.2.2.1).symm, hl.2.1.symm⟩
        · rw [ReservedBy, State.setReservation_of_ne hlj] at hl
          exact Or.inr ⟨l, hl⟩
      · rintro (⟨rfl, rfl⟩ | ⟨l, hl⟩)
        · refine ⟨j, ?_⟩
          rw [ReservedBy, State.setReservation_self]
          exact ⟨hused, hid, htype, hport⟩
        · have hlj : l ≠ j := by
            rintro rfl
            rw [ReservedBy, hfree] at hl
            exact Bool.false_ne_true hl.1
          refine ⟨l, ?_⟩
          rw [ReservedBy, State.setReservation_of_ne hlj]
          exact hl

/-- A Listener is not passed on: there would have to be a Talker of the same stream on the other
port, but a stream is registered once. -/
theorem joinEligible_iff_talker {k : Fin 10} (ht : Orderly t)
    (hused : (t.machine p (.slot i)).used = true) (hdir : (t.machine p (.slot i)).attrDir = .reg)
    (hk : (t.machine p (.slot i)).attributeInfo = some k) (hq : q ≠ p) :
    JoinEligible t (t.machine p (.slot i)) (t.streamInfoVars k).streamID q ↔
      (t.machine p (.slot i)).attributeType.IsTalker := by
  obtain ⟨-, hstream, k', hk', -, hid⟩ := ht.registrations p i hused hdir
  obtain rfl := Option.some_inj.mp (hk.symm.trans hk')
  have hself : (relayOf t).table p i = some (.registration
      ((t.machine p (.slot i)).attributeType, (t.machine p (.slot i)).streamID)
        (decide ((t.machine p (.slot i)).regState ≠ .MT))) :=
    entry_registration.mpr ⟨hused, hdir, rfl, rfl⟩
  constructor
  · intro helig
    cases htype : (t.machine p (.slot i)).attributeType with
    | talkerAdvertise => exact Or.inl rfl
    | talkerFailed => exact Or.inr rfl
    | domainVector => exact absurd htype hstream
    | listener =>
      refine absurd ⟨htype, find_of_not_reserved ?_⟩ helig
      rw [hid]
      intro hreserved
      obtain ⟨j, hj⟩ := (ht.consistent.reserved q
        (.talkerAdvertise, (t.machine p (.slot i)).streamID)).mp hreserved
      exact hq (ht.consistent.once p q i j _ _ _ _ hself hj rfl).1.symm
  · rintro (htalker | htalker) ⟨hlistener, -⟩
    · rw [htalker] at hlistener
      cases hlistener
    · rw [htalker] at hlistener
      cases hlistener

/-- What a join makes of the slots of another port. -/
theorem PortJoined.declares {m : MadMachine} {k : Fin 10} (h : PortJoined m k t u q)
    (hstream : m.attributeType.IsStream)
    (helig : JoinEligible t m (t.streamInfoVars k).streamID q) :
    ∃ j, (t.machine q (.slot j)).used = false ∧ (u.machine q (.slot j)).used = true ∧
      (u.machine q (.slot j)).attrDir = .dec ∧
      (u.machine q (.slot j)).attributeType = m.attributeType ∧
      (u.machine q (.slot j)).streamID = (t.streamInfoVars k).streamID ∧
      ∀ l, l ≠ j → u.machine q (.slot l) = t.machine q (.slot l) := by
  rw [PortJoined, if_pos helig] at h
  obtain ⟨j, s, hj, hmachine⟩ := h
  have hself := hmachine (.slot j)
  rw [if_pos rfl] at hself
  refine ⟨j, used_of_firstUnused hj, ?_, ?_, ?_, ?_, fun l hl => ?_⟩
  · rw [hself]
    rfl
  · rw [hself]
    rfl
  · rw [hself, ← propagatedAs_fst hstream]
    rfl
  · rw [hself]
    rfl
  · rw [hmachine, if_neg fun heq => hl (MachineRef.slot.inj heq)]

/-! ### The event of a value is a step -/

theorem entry_congr {a b : MadMachine} (h : a.core = b.core) : a.entry = b.entry := by
  rw [← MadMachine.entry_core a, h, MadMachine.entry_core]

/-- The registrations stay what they are, whatever the state of the one that the event is for. -/
theorem EventResult.registers {s : RegistrarState} (ht : Orderly t) (hresult : EventResult t u t' p i s)
    (hused : (t.machine p (.slot i)).used = true) (hdir : (t.machine p (.slot i)).attrDir = .reg)
    (hstreams : u.streamInfoVars = t.streamInfoVars)
    (hrest : ∀ q j, (u.machine q (.slot j)).used = true → (u.machine q (.slot j)).attrDir = .reg →
      u.machine q (.slot j) = t.machine q (.slot j))
    (q : Fin n) (j : Fin 24) (hused' : (t'.machine q (.slot j)).used = true)
    (hdir' : (t'.machine q (.slot j)).attrDir = .reg) : (t'.machine q (.slot j)).Registers t' := by
  have hstreams' := hresult.streams.trans hstreams
  by_cases hself : q = p ∧ MachineRef.slot j = .slot i
  · obtain ⟨rfl, hj⟩ := hself
    obtain rfl := MachineRef.slot.inj hj
    obtain ⟨-, hstream, k, hk, hku, hid⟩ := ht.registrations q j hused hdir
    exact Registers.congr hresult.self ⟨hresult.reached, hstream, k, hk, hku, hid⟩ hstreams'
  · have hcore := hresult.others q (.slot j) hself
    rw [used_of_core hcore] at hused'
    rw [attrDir_of_core hcore] at hdir'
    have hsame := hrest q j hused' hdir'
    rw [hsame] at hcore hused' hdir'
    exact Registers.congr hcore (ht.registrations q j hused' hdir') hstreams'

/-- The event of a value: the relay takes a step or stays as it is. -/
theorem madAttrEvent_path (ht : Orderly t) (hdigit : e.Digit)
    (hused : (t.machine p (.slot i)).used = true) (hdir : (t.machine p (.slot i)).attrDir = .reg)
    (h : madAttrEvent env t p (.slot i) e = some (t', r)) :
    Path AttributeType.IsTalker (relayOf t) (relayOf t') ∧ Orderly t' := by
  obtain ⟨hreached, hstream, k, hk, -, hid⟩ := ht.registrations p i hused hdir
  set m := t.machine p (.slot i) with hm
  rcases madAttrEvent_registration ht hdigit hused hdir hk h with
    ⟨s, hresult, hmt⟩ | ⟨w, u, hw, hjoined, hresult⟩
  · -- no join: the tables are the same
    have hsame : relayOf t' = relayOf t := by
      have htable : (relayOf t').table = (relayOf t).table := by
        funext q j
        show (t'.machine q (.slot j)).entry = (t.machine q (.slot j)).entry
        by_cases hself : q = p ∧ MachineRef.slot j = .slot i
        · obtain ⟨rfl, hj⟩ := hself
          obtain rfl := MachineRef.slot.inj hj
          have hbefore : m.entry = some (.registration (m.attributeType, m.streamID)
              (decide (m.regState ≠ .MT))) := entry_registration.mpr ⟨hused, hdir, rfl, rfl⟩
          have hafter : (m.withRegState s).entry = some (.registration
              (m.attributeType, m.streamID) (decide (s ≠ .MT))) :=
            entry_registration.mpr ⟨hused, hdir, rfl, rfl⟩
          rw [entry_congr hresult.self, hafter, hbefore, decide_eq_decide.mpr (not_congr hmt)]
        · exact entry_congr (hresult.others q (.slot j) hself)
      have hreserved : (relayOf t').reserved = (relayOf t).reserved := by
        funext q
        show {a : StreamAttribute | Reserved t' a.2 q a.1} = {a : StreamAttribute | Reserved t a.2 q a.1}
        simp only [Reserved, ReservedBy, hresult.reservations]
      rw [relayOf, relayOf, Relay.mk.injEq]
      exact ⟨htable, hreserved⟩
    refine ⟨by rw [hsame], fun q j => ?_, hsame ▸ ht.consistent⟩
    exact hresult.registers ht hused hdir rfl (fun _ _ _ _ => rfl) q j
  · have hres := msrpMadJoinInd_reservationsOnly hw
    have hwmachine : w.machine = t.machine := hres.machine
    have hport : ∀ x, u.machine p x = t.machine p x := by
      intro x
      rw [hjoined.outside p (fun hmem => mem_otherPorts.mp hmem rfl), hwmachine]
    -- on the other ports, a Talker takes a slot, and a Listener does nothing
    have helig : ∀ q, q ≠ p →
        (JoinEligible w m (w.streamInfoVars k).streamID q ↔ m.attributeType.IsTalker) := by
      intro q hq
      rw [hres.streams, joinEligible_joinInd hw hq]
      have htalker := joinEligible_iff_talker ht hused hdir hk hq
      exact htalker
    have hother : ∀ q j, q ≠ p → (relayOf t').table q j = (u.machine q (.slot j)).entry :=
      fun q j hq => entry_congr (hresult.others q (.slot j) fun hself => hq hself.1)
    have hstep : Step AttributeType.IsTalker (relayOf t) (relayOf t') := by
      refine .join p i (m.attributeType, m.streamID) (decide (m.regState ≠ .MT))
        (entry_registration.mpr ⟨hused, hdir, rfl, rfl⟩) ?_ (fun htalker q hq => ?_)
        (fun htalker q hq => ?_) ?_
      · funext j
        by_cases hj : j = i
        · subst hj
          rw [Function.update_self]
          show (t'.machine p (.slot j)).entry = _
          rw [entry_congr hresult.self]
          exact entry_registration.mpr ⟨hused, hdir, rfl, rfl⟩
        · rw [Function.update_of_ne hj]
          show (t'.machine p (.slot j)).entry = (t.machine p (.slot j)).entry
          rw [entry_congr (hresult.others p (.slot j) fun hself => hj (MachineRef.slot.inj hself.2)),
            hport]
      · obtain ⟨j, hfree, hju, hjd, hjt, hjid, hrest⟩ :=
          (hjoined.inside q (mem_otherPorts.mpr hq)).declares hstream ((helig q hq).mpr htalker)
        rw [hwmachine] at hfree
        refine ⟨j, entry_of_unused hfree, ?_⟩
        funext l
        rw [hother q l hq]
        by_cases hl : l = j
        · subst hl
          rw [Function.update_self, entry_declaration]
          refine ⟨hju, hjd, ?_⟩
          rw [hjt, hjid, hres.streams, hm]
          exact congrArg (Prod.mk m.attributeType) hid.symm
        · rw [Function.update_of_ne hl, hrest l hl, hwmachine]
          rfl
      · funext l
        have hnot : ¬ JoinEligible w m (w.streamInfoVars k).streamID q := fun h' =>
          htalker ((helig q hq).mp h')
        have hsame := hjoined.inside q (mem_otherPorts.mpr hq)
        rw [PortJoined, if_neg hnot] at hsame
        rw [hother q l hq, hsame, hwmachine]
        rfl
      · funext q
        ext b
        have hres' : t'.reservations = w.reservations :=
          hresult.reservations.trans hjoined.reservations
        have hreserved := reserved_joinInd hstream hk hw q b
        rw [State.record_streamInfoVars, hid] at hreserved
        have hiff : b ∈ (relayOf t').reserved q ↔
            q = p ∧ b = (m.attributeType, m.streamID) ∨ b ∈ (relayOf t).reserved q := by
          refine Iff.trans ?_ hreserved
          show Reserved t' b.2 q b.1 ↔ Reserved w b.2 q b.1
          simp only [Reserved, ReservedBy, hres']
        rw [hiff]
        by_cases hq : q = p
        · subst hq
          rw [Function.update_self, Set.mem_insert_iff]
          exact or_congr (and_iff_right rfl) Iff.rfl
        · rw [Function.update_of_ne hq]
          exact or_iff_right fun h' => hq h'.1
    refine ⟨Relation.ReflTransGen.single hstep, fun q j => ?_, hstep.consistent ht.consistent⟩
    refine hresult.registers ht hused hdir (hjoined.streams.trans hres.streams)
      (fun q j hju hjd => ?_) q j
    by_cases hq : q = p
    · rw [hq, hport]
    · have hinside := hjoined.inside q (mem_otherPorts.mpr hq)
      by_cases htalker : m.attributeType.IsTalker
      · obtain ⟨l, -, -, hld, -, -, hrest⟩ := hinside.declares hstream ((helig q hq).mpr htalker)
        have hne : j ≠ l := by
          rintro rfl
          rw [hld] at hjd
          cases hjd
        rw [hrest j hne, hwmachine]
      · rw [PortJoined, if_neg fun h' => htalker ((helig q hq).mp h')] at hinside
        rw [hinside, hwmachine]

/-! ### Values -/

theorem unused_of_freeStream {k : Fin 10} (h : vtssMsrpGetFreeStream t = some k) :
    (t.streamInfoVars k).used = false := by
  have hfind := (Option.filter_eq_some_iff.mp h).1
  simpa using List.find?_some hfind

/-- A value of a stream that is not in the table takes a slot for its registration. -/
theorem registered_step {v : RxValue} {k : Fin 10} {s : StreamInfo} (ht : Orderly t)
    (hstream : v.attrType.IsStream) (habsent : StreamAbsent t s.streamID) (hs : s.used = true)
    (hfree : (t.streamInfoVars k).used = false) (hi : (t.machine p (.slot i)).used = false) :
    Step AttributeType.IsTalker (relayOf t) (relayOf (t.registered p v k s i)) ∧
      Orderly (t.registered p v k s i) := by
  have hself : (t.registered p v k s i).machine p (.slot i) =
      registeredMachine v k s.streamID (t.machine p (.slot i)) := State.registered_machine_self
  have hother : ∀ q j, ¬ (q = p ∧ j = i) →
      (t.registered p v k s i).machine q (.slot j) = t.machine q (.slot j) := fun q j hne =>
    State.registered_machine_of_ne fun heq => hne ⟨heq.1, MachineRef.slot.inj heq.2⟩
  have hstep : Step AttributeType.IsTalker (relayOf t) (relayOf (t.registered p v k s i)) := by
    refine .register p i (v.attrType, s.streamID) (entry_of_unused hi) (fun q j b joined hb => ?_) ?_
      (fun q hq => ?_) rfl
    · obtain ⟨hused, hdir, rfl, -⟩ := entry_registration.mp hb
      obtain ⟨-, -, k', -, -, hid⟩ := ht.registrations q j hused hdir
      exact hid ▸ habsent k'
    · funext j
      by_cases hj : j = i
      · subst hj
        rw [Function.update_self]
        refine entry_registration.mpr ?_
        rw [hself]
        exact ⟨rfl, rfl, rfl, rfl⟩
      · rw [Function.update_of_ne hj]
        show ((t.registered p v k s i).machine p (.slot j)).entry = _
        rw [hother p j fun h => hj h.2]
        rfl
    · funext j
      show ((t.registered p v k s i).machine q (.slot j)).entry = _
      rw [hother q j fun h => hq h.1]
      rfl
  refine ⟨hstep, fun q j hused hdir => ?_, hstep.consistent ht.consistent⟩
  by_cases hne : q = p ∧ j = i
  · obtain ⟨rfl, rfl⟩ := hne
    rw [hself]
    refine ⟨Or.inl rfl, hstream, k, rfl, ?_, ?_⟩
    · rw [State.registered_stream]
      exact hs
    · rw [State.registered_stream]
      rfl
  · rw [hother q j hne] at hused hdir ⊢
    obtain ⟨hreached, hty, k', hk', hused', hid⟩ := ht.registrations q j hused hdir
    have hk : k' ≠ k := by
      rintro rfl
      rw [hfree] at hused'
      cases hused'
    have hsame : (t.registered p v k s i).streamInfoVars k' = t.streamInfoVars k' := by
      show Function.update t.streamInfoVars k s k' = _
      rw [Function.update_of_ne hk]
    exact ⟨hreached, hty, k', hk', hsame ▸ hused', hsame ▸ hid⟩

/-- The pointer of the receiving loop leads to a registration of the port. -/
def PointsTo (t : State n) (p : Fin n) (ptr : Option MachineRef) : Prop :=
  ∀ ref, ptr = some ref → ∃ i, ref = .slot i ∧ (t.machine p (.slot i)).used = true ∧
    (t.machine p (.slot i)).attrDir = .reg

theorem PointsTo.grows {ptr : Option MachineRef} (hptr : PointsTo t p ptr)
    (h : Grows (relayOf t) (relayOf t')) : PointsTo t' p ptr := by
  intro ref href
  obtain ⟨i, hi, hused, hdir⟩ := hptr ref href
  obtain ⟨e', he', hkept⟩ := h.entries p i _ (entry_registration.mpr ⟨hused, hdir, rfl, rfl⟩)
  refine ⟨i, hi, ?_⟩
  cases hkept with
  | refl => exact ⟨(entry_registration.mp he').1, (entry_registration.mp he').2.1⟩
  | joined => exact ⟨(entry_registration.mp he').1, (entry_registration.mp he').2.1⟩

/-- The event of a value that a frame holds is a digit. -/
theorem digit_of_packed {v : RxValue} {signed : Bool} (hpacked : (RxItem.value v).Packed signed)
    (he : mrpEventOfInt v.threePackedEvent = some e) : e.Digit := by
  have hdigit : ∀ d < 6, ∀ e, mrpEventOfInt ((d : ℕ) : ℤ) = some e → e.Digit := by
    intro d hd e he
    interval_cases d
    all_goals
      rw [← Option.some_inj.mp he]
      decide
  rcases threePackedEvent_cases hpacked with hneg | ⟨d, hd, heq, -⟩
  · rw [mrpEventOfInt_of_neg hneg] at he
    cases he
  · exact hdigit d hd e (heq ▸ he)

/-- A value that is delivered to a registration of the port. -/
theorem deliver_path {v : RxValue} {signed : Bool} {ptr : Option MachineRef}
    {s' : State n × Option MachineRef} (ht : Orderly t) (hptr : PointsTo t p ptr)
    (hpacked : (RxItem.value v).Packed signed)
    (h : deliver env p t ptr v.threePackedEvent = some s') :
    Path AttributeType.IsTalker (relayOf t) (relayOf s'.1) ∧ Orderly s'.1 ∧ PointsTo s'.1 p s'.2 := by
  obtain ⟨ref, e, r, rfl, he, hevent, hs'⟩ := deliver_cases h
  obtain ⟨i, rfl, hused, hdir⟩ := hptr ref rfl
  obtain ⟨hpath, horderly⟩ := madAttrEvent_path ht (digit_of_packed hpacked he) hused hdir hevent
  exact ⟨hpath, horderly, hs' ▸ hptr.grows hpath.grows⟩

theorem receiveValue_path {v : RxValue} {ptr : Option MachineRef} {s' : State n × Option MachineRef}
    (ht : Orderly t) (hptr : PointsTo t p ptr) (hpacked : (RxItem.value v).Packed env.charSigned)
    (h : receiveValue env p t ptr v = some s') :
    Path AttributeType.IsTalker (relayOf t) (relayOf s'.1) ∧ Orderly s'.1 ∧ PointsTo s'.1 p s'.2 := by
  by_cases hstream : v.attrType.IsStream
  · obtain ⟨habsent, k, i, hfree, hi⟩ := receiveValue_cases hstream h
    obtain ⟨s, hs, hid, heq⟩ := receiveValue_eq ptr hstream habsent hfree hi
    obtain ⟨hstep, horderly⟩ := registered_step ht hstream (hid ▸ habsent) hs
      (unused_of_freeStream hfree) (used_of_firstUnused hi)
    have hslot : PointsTo (t.registered p v k s i) p (some (.slot i)) := by
      intro ref href
      refine ⟨i, (Option.some_inj.mp href).symm, ?_⟩
      rw [State.registered_machine_self]
      exact ⟨rfl, rfl⟩
    obtain ⟨hpath, hrest⟩ := deliver_path horderly hslot hpacked (heq ▸ h)
    exact ⟨Relation.ReflTransGen.head hstep hpath, hrest⟩
  · -- a Domain: its event goes to the machine of the value before it
    rw [receiveValue, if_pos (not_not.mp hstream)] at h
    have hdomain : SameTables t (receiveDomain t p v.firstValue) :=
      SameTables.setPort fun i => Participant.setMachine_machine_of_ne (by rintro ⟨⟩)
    have hsame := relayOf_congr hdomain
    have hptr' : PointsTo (receiveDomain t p v.firstValue) p ptr :=
      hptr.grows (hsame ▸ Grows.refl (relayOf t))
    have hpath := deliver_path (ht.congr hdomain) hptr' hpacked h
    rw [hsame] at hpath
    exact hpath

/-! ### Everything else -/

/-- The events from `MRP_EVENT_R_LA` on change applicant states only. -/
theorem madAttrEvent_tables (hlate : MrpEvent.rLa.index ≤ e.index)
    (h : madAttrEvent env t p ref e = some (t', r)) : SameTables t t' := by
  have hrecord : SameCore t (t.record (.madAttrEvent p ref e)) := SameCore.record
  by_cases hdir : (t.machine p ref).attrDir = .dec
  · rw [madAttrEvent_dec hdir] at h
    exact (hrecord.trans (declarationEvent_appOnly h).sameCore).tables
  · rw [madAttrEvent, if_neg hdir] at h
    obtain ⟨u, hu, happ⟩ := Option.bind_eq_some_iff.mp h
    rcases registrar_cases hu with ⟨-, rfl⟩ | ⟨hvalid, -⟩
    · exact (hrecord.trans (applicant_appOnly happ).sameCore).tables
    · exact absurd (registrarEntry_late _ e hlate) hvalid

theorem machineLoop_tables (hlate : MrpEvent.rLa.index ≤ e.index) {selected : MadMachine → Bool}
    {is : List (Fin 24)} (h : machineLoop env p selected e is t = some t') : SameTables t t' := by
  induction is generalizing t with
  | nil => exact Option.some_inj.mp h ▸ SameTables.refl t
  | cons i is ih =>
    rw [machineLoop] at h
    split at h
    · cases hev : madAttrEvent env t p (.slot i) e with
      | none =>
        rw [hev] at h
        cases h
      | some w =>
        rw [hev] at h
        have hfirst := madAttrEvent_tables hlate hev
        dsimp only at h
        split at h
        · rw [← Option.some_inj.mp h]
          exact hfirst.trans (SameTables.setPort fun _ => rfl)
        · exact hfirst.trans (ih h)
    · exact ih h

theorem madEvent_tables (hlate : MrpEvent.rLa.index ≤ e.index)
    (h : madEvent env t p e = some t') : SameTables t t' :=
  (SameTables.record t _).trans (machineLoop_tables hlate h)

theorem txEvent_late (leaveall : Bool) (ptr : ℕ) :
    MrpEvent.rLa.index ≤ (txEvent leaveall ptr).index := by
  rw [txEvent]
  split
  · split <;> decide
  · decide

theorem mrpTransmit_tables {T : Transmission n} (h : mrpTransmit env t p = some T) :
    SameTables t T.after := by
  obtain ⟨u, ptr, v, ptr', b, hu, -, hv, -, -, rfl⟩ := mrpTransmit_cases h
  rw [madParticipantEvent_late env t p (by decide), Option.some_inj] at hu
  have hcalled : SameTables t u := hu ▸ SameTables.record t _
  have hmachines : SameTables t v := hcalled.trans (madEvent_tables (txEvent_late _ ptr) hv)
  exact hmachines.trans (SameTables.setPort fun _ => rfl)

theorem callPort_tables {s s' : Sending n} (h : callPort env s p = some s') :
    SameTables s.state s'.state := by
  rw [callPort] at h
  obtain ⟨u, hu, h⟩ := Option.bind_eq_some_iff.mp h
  obtain ⟨v, hv, h⟩ := Option.bind_eq_some_iff.mp h
  have hleave : SameTables s.state u := by
    refine (SameTables.record s.state (.poll p)).trans ?_
    rw [pollLeaveTimer] at hu
    split at hu
    · exact SameTables.trans (by exact SameTables.setPort fun _ => rfl) (madEvent_tables (by decide) hu)
    · exact Option.some_inj.mp hu ▸ SameTables.refl _
  have hleaveall : SameTables u v := by
    rw [pollLeaveallTimer] at hv
    split at hv
    · rw [madParticipantEvent_late env u p (by decide), Option.some_inj] at hv
      exact hv ▸ SameTables.record u _
    · exact Option.some_inj.mp hv ▸ SameTables.refl u
  have hopportunity : SameTables v (v.setPort p (mrpTxOpportunity (v.ports p)).1) := by
    refine SameTables.setPort fun i => ?_
    rw [mrpTxOpportunity]
    split
    · split <;> rfl
    · split <;> rfl
  have hpolled := (hleave.trans hleaveall).trans hopportunity
  dsimp only at h
  split at h
  · obtain ⟨T, hT, rfl⟩ := Option.map_eq_some_iff.mp h
    exact hpolled.trans (mrpTransmit_tables hT)
  · exact Option.some_inj.mp h ▸ hpolled

theorem callMoreWork_tables {s s' : Sending n} (h : callMoreWork env s = some s') :
    SameTables s.state s'.state :=
  Runs.run_invariant (I := fun u => SameTables s.state u.state)
    (fun hu hstep => hu.trans (callPort_tables hstep)) (SameTables.refl s.state) h

theorem tickPorts_tables (ps : List (Fin n)) (t : State n) : SameTables t (ps.foldl tickPort t) := by
  induction ps generalizing t with
  | nil => exact SameTables.refl t
  | cons p ps ih =>
    have hport : SameTables t (tickPort t p) := by
      refine SameTables.trans ?_ (SameTables.record _ _)
      exact SameTables.setPort fun _ => rfl
    exact hport.trans (ih (tickPort t p))

/-! ### Runs -/

theorem receiveItem_path {item : RxItem} {s s' : State n × Option MachineRef} (ht : Orderly s.1)
    (hptr : PointsTo s.1 p s.2) (hpacked : item.Packed env.charSigned)
    (h : receiveItem env p s item = some s') :
    Path AttributeType.IsTalker (relayOf s.1) (relayOf s'.1) ∧ Orderly s'.1 ∧
      PointsTo s'.1 p s'.2 := by
  rcases item with ty | v
  · obtain ⟨w, hw, rfl⟩ := Option.map_eq_some_iff.mp h
    obtain ⟨u, hu, hw⟩ := Option.bind_eq_some_iff.mp hw
    rw [madParticipantEvent_late env u p (by decide), Option.some_inj] at hw
    have hmachines : SameTables s.1 u := machineLoop_tables (by decide) hu
    have hall : SameTables s.1 w := hw ▸ hmachines.trans (SameTables.record u _)
    have hsame := relayOf_congr hall
    refine ⟨by rw [hsame], ht.congr hall, hptr.grows ?_⟩
    rw [hsame]
    exact Grows.refl (relayOf s.1)
  · exact receiveValue_path ht hptr hpacked h

/-- A call takes the relay some steps. -/
theorem call_path {s s' : Sending n} {c : Call n} (ht : Orderly s.state)
    (h : c.step env s = some s') :
    Path AttributeType.IsTalker (relayOf s.state) (relayOf s'.state) ∧ Orderly s'.state := by
  have htables : SameTables s.state s'.state →
      Path AttributeType.IsTalker (relayOf s.state) (relayOf s'.state) ∧ Orderly s'.state := by
    intro hsame
    exact ⟨by rw [relayOf_congr hsame], ht.congr hsame⟩
  cases c with
  | receive p rxframe len =>
    obtain ⟨t', ht', rfl⟩ := Option.map_eq_some_iff.mp h
    obtain ⟨r, hrun, rfl⟩ := Option.map_eq_some_iff.mp ht'
    have hkept := Runs.run_invariant_of_forall
      (I := fun r => Path AttributeType.IsTalker (relayOf s.state) (relayOf r.1) ∧ Orderly r.1 ∧
        PointsTo r.1 p r.2)
      (Q := fun item => item.Packed env.charSigned)
      (fun hpacked hI hstep => by
        obtain ⟨hpath, hrest⟩ := receiveItem_path hI.2.1 hI.2.2 hpacked hstep
        exact ⟨hI.1.trans hpath, hrest⟩)
      (rxItems_packed rxframe len)
      ⟨Relation.ReflTransGen.refl, ht, fun ref href => absurd href (Option.some_ne_none ref).symm⟩ hrun
    exact ⟨hkept.1, hkept.2.1⟩
  | tick =>
    obtain ⟨u, hu, rfl⟩ := Option.map_eq_some_iff.mp h
    exact htables ((callMoreWork_tables hu).trans (tickPorts_tables _ u.state))
  | moreWork => exact htables (callMoreWork_tables h)

/-- Every run of calls is a path of the relay. -/
theorem run_path {calls : List (Call n)} {s s' : Sending n} (ht : Orderly s.state)
    (hrun : Runs.run (Call.step env) s calls = some s') :
    Path AttributeType.IsTalker (relayOf s.state) (relayOf s'.state) ∧ Orderly s'.state := by
  refine Runs.run_invariant
    (I := fun u => Path AttributeType.IsTalker (relayOf s.state) (relayOf u.state) ∧ Orderly u.state)
    (fun {u c u'} hu hstep => ?_) ⟨Relation.ReflTransGen.refl, ht⟩ hrun
  obtain ⟨hpath, horderly⟩ := call_path hu.2 hstep
  exact ⟨hu.1.trans hpath, horderly⟩

/-- No machine and no reservation is in use. -/
structure Vacant (t : State n) : Prop where
  machines : ∀ p i, (t.machine p (.slot i)).used = false
  reservations : ∀ j, (t.reservations j).used = false

theorem Vacant.orderly (h : Vacant t) : Orderly t := by
  refine ⟨fun p i hused => ?_, Consistent.of_empty (fun p i => entry_of_unused (h.machines p i)) ?_⟩
  · rw [h.machines p i] at hused
    cases hused
  · intro p
    rw [Set.eq_empty_iff_forall_notMem]
    rintro a ⟨j, hj⟩
    rw [ReservedBy, h.reservations j] at hj
    exact Bool.false_ne_true hj.1

/-- **The module refines the relay.**  From empty tables every run of calls, with any frames on any
ports, is a path of the relay. -/
theorem calls_path (env : Env n) (calls : List (Call n)) (s s' : Sending n)
    (hvacant : Vacant s.state) (hrun : Runs.run (Call.step env) s calls = some s') :
    Path AttributeType.IsTalker (relayOf s.state) (relayOf s'.state) :=
  (run_path hvacant.orderly hrun).1

/-- In slot `i` port `p` has a registration that is joined: its registrar is not in `MT`. -/
def JoinedAt (t : State n) (p : Fin n) (i : Fin 24) (ty : AttributeType) (id : UInt32 × UInt32) :
    Prop :=
  (t.machine p (.slot i)).used = true ∧ (t.machine p (.slot i)).attrDir = .reg ∧
    (t.machine p (.slot i)).attributeType = ty ∧ (t.machine p (.slot i)).streamID = id ∧
    (t.machine p (.slot i)).regState ≠ .MT

/-- In slot `i` port `p` has a declaration. -/
def DeclaredAt (t : State n) (p : Fin n) (i : Fin 24) (ty : AttributeType) (id : UInt32 × UInt32) :
    Prop :=
  (t.machine p (.slot i)).used = true ∧ (t.machine p (.slot i)).attrDir = .dec ∧
    (t.machine p (.slot i)).attributeType = ty ∧ (t.machine p (.slot i)).streamID = id

theorem joinedAt_iff {ty : AttributeType} {id : UInt32 × UInt32} :
    JoinedAt t p i ty id ↔ (relayOf t).table p i = some (.registration (ty, id) true) := by
  show _ ↔ (t.machine p (.slot i)).entry = _
  rw [entry_registration, JoinedAt, true_eq_decide_iff]
  constructor
  · rintro ⟨hused, hdir, rfl, rfl, hstate⟩
    exact ⟨hused, hdir, rfl, hstate⟩
  · rintro ⟨hused, hdir, heq, hstate⟩
    obtain ⟨rfl, rfl⟩ := Prod.mk.inj heq
    exact ⟨hused, hdir, rfl, rfl, hstate⟩

theorem declaredAt_iff {ty : AttributeType} {id : UInt32 × UInt32} :
    DeclaredAt t p i ty id ↔ (relayOf t).table p i = some (.declaration (ty, id)) := by
  show _ ↔ (t.machine p (.slot i)).entry = _
  rw [entry_declaration, DeclaredAt]
  constructor
  · rintro ⟨hused, hdir, rfl, rfl⟩
    exact ⟨hused, hdir, rfl⟩
  · rintro ⟨hused, hdir, heq⟩
    obtain ⟨rfl, rfl⟩ := Prod.mk.inj heq
    exact ⟨hused, hdir, rfl, rfl⟩

/-- The declarations of a port are those of the Talkers that other ports have joined, and its
reservations those of what it has joined itself. -/
structure Relayed (t : State n) : Prop where
  declared : ∀ q ty id, (∃ i, DeclaredAt t q i ty id) ↔
    ty.IsTalker ∧ ∃ p i, p ≠ q ∧ JoinedAt t p i ty id
  reserved : ∀ p ty id, Reserved t id p ty ↔ ∃ i, JoinedAt t p i ty id
  /-- whatever the type, a stream is joined on one port only -/
  once : ∀ p q i j ty ty' id, JoinedAt t p i ty id → JoinedAt t q j ty' id → p = q ∧ i = j

theorem Orderly.relayed (ht : Orderly t) : Relayed t where
  declared q ty id := by
    constructor
    · rintro ⟨i, hi⟩
      obtain ⟨htalker, p, hp, j, hj⟩ := ht.consistent.backed q (ty, id) ⟨i, declaredAt_iff.mp hi⟩
      exact ⟨htalker, p, j, hp, joinedAt_iff.mpr hj⟩
    · rintro ⟨htalker, p, i, hp, hi⟩
      obtain ⟨j, hj⟩ := ht.consistent.passedOn p (ty, id) ⟨i, joinedAt_iff.mp hi⟩ htalker q
        (Ne.symm hp)
      exact ⟨j, declaredAt_iff.mpr hj⟩
  reserved p ty id := by
    have hiff := ht.consistent.reserved p (ty, id)
    constructor
    · intro hreserved
      obtain ⟨i, hi⟩ := hiff.mp hreserved
      exact ⟨i, joinedAt_iff.mpr hi⟩
    · rintro ⟨i, hi⟩
      exact hiff.mpr ⟨i, joinedAt_iff.mp hi⟩
  once p q i j ty ty' id hp hq :=
    ht.consistent.once p q i j _ _ true true (joinedAt_iff.mp hp) (joinedAt_iff.mp hq) rfl

/-- **Declarations and reservations follow the registrations**, in every state that a run from empty
tables reaches. -/
theorem calls_relayed (env : Env n) (calls : List (Call n)) (s s' : Sending n)
    (hvacant : Vacant s.state) (hrun : Runs.run (Call.step env) s calls = some s') :
    Relayed s'.state :=
  (run_path hvacant.orderly hrun).2.relayed

/-- **Nothing is ever taken back.**  What is joined, declared or reserved in a state that a run from
empty tables reaches is so in every state that the run reaches later. -/
theorem registration_permanent (env : Env n) (calls later : List (Call n)) (s u s' : Sending n)
    (hvacant : Vacant s.state) (hrun : Runs.run (Call.step env) s calls = some u)
    (hlater : Runs.run (Call.step env) u later = some s') :
    (∀ p i ty id, JoinedAt u.state p i ty id → JoinedAt s'.state p i ty id) ∧
      (∀ p i ty id, DeclaredAt u.state p i ty id → DeclaredAt s'.state p i ty id) ∧
      ∀ p ty id, Reserved u.state id p ty → Reserved s'.state id p ty := by
  have horderly := (run_path hvacant.orderly hrun).2
  have hgrows := (run_path horderly hlater).1.grows
  refine ⟨fun p i ty id hi => ?_, fun p i ty id hi => ?_, fun p ty id hreserved => ?_⟩
  · obtain ⟨e', he', hkept⟩ := hgrows.entries p i _ (joinedAt_iff.mp hi)
    refine joinedAt_iff.mpr ?_
    cases hkept with
    | refl => exact he'
    | joined => exact he'
  · obtain ⟨e', he', hkept⟩ := hgrows.entries p i _ (declaredAt_iff.mp hi)
    refine declaredAt_iff.mpr ?_
    cases hkept with
    | refl => exact he'
  · exact hgrows.reserved p (show (ty, id) ∈ (relayOf u.state).reserved p from hreserved)

/-! ### A Talker on the first of two ports -/

theorem idle_vacant (n : ℕ) : Vacant (State.idle n) := ⟨fun _ _ => rfl, fun _ => rfl⟩

theorem calls_path_talker :
    ∃ s', Runs.run (Call.step ⟨true, fun _ _ => false⟩) ⟨State.idle 2, []⟩
        [.receive ⟨0, Nat.two_pos⟩ talkerFrame 40, .tick] = some s' ∧
      Path AttributeType.IsTalker (relayOf (State.idle 2)) (relayOf s'.state) := by
  have hsome : (Runs.run (Call.step ⟨true, fun _ _ => false⟩) ⟨State.idle 2, []⟩
      [.receive ⟨0, Nat.two_pos⟩ talkerFrame 40, .tick]).isSome = true := by decide +kernel
  obtain ⟨s', hs'⟩ := Option.isSome_iff_exists.mp hsome
  exact ⟨s', hs', calls_path _ _ ⟨State.idle 2, []⟩ s' (idle_vacant 2) hs'⟩

theorem calls_relayed_talker :
    ∃ s', Runs.run (Call.step ⟨true, fun _ _ => false⟩) ⟨State.idle 2, []⟩
        [.receive ⟨0, Nat.two_pos⟩ talkerFrame 40, .tick] = some s' ∧ Relayed s'.state := by
  have hsome : (Runs.run (Call.step ⟨true, fun _ _ => false⟩) ⟨State.idle 2, []⟩
      [.receive ⟨0, Nat.two_pos⟩ talkerFrame 40, .tick]).isSome = true := by decide +kernel
  obtain ⟨s', hs'⟩ := Option.isSome_iff_exists.mp hsome
  exact ⟨s', hs', calls_relayed _ _ ⟨State.idle 2, []⟩ s' (idle_vacant 2) hs'⟩

/-- The Talker is joined when it has been received, and stays joined. -/
theorem registration_permanent_talker :
    ∃ u s', Runs.run (Call.step ⟨true, fun _ _ => false⟩) ⟨State.idle 2, []⟩
        [.receive ⟨0, Nat.two_pos⟩ talkerFrame 40] = some u ∧
      Runs.run (Call.step ⟨true, fun _ _ => false⟩) u [.tick, .moreWork] = some s' ∧
      ∀ p i ty id, JoinedAt u.state p i ty id → JoinedAt s'.state p i ty id := by
  have hsome : (Runs.run (Call.step ⟨true, fun _ _ => false⟩) ⟨State.idle 2, []⟩
      ([.receive ⟨0, Nat.two_pos⟩ talkerFrame 40] ++ [.tick, .moreWork])).isSome = true := by
    decide +kernel
  obtain ⟨s', hs'⟩ := Option.isSome_iff_exists.mp hsome
  obtain ⟨u, hu, hlater⟩ := Runs.run_append_eq_some.mp hs'
  exact ⟨u, s', hu, hlater,
    (registration_permanent _ _ _ ⟨State.idle 2, []⟩ u s' (idle_vacant 2) hu hlater).1⟩

end Msrp
