/-
What `vtss_msrp_receive` does with a value.

A value of a stream whose StreamID is in no entry of `stream_info_vars` gets an entry and a
machine of its own, and its event is passed to that machine (`receiveValue_eq`).  For a
StreamID that is in the table the search for the machine has no result, so that the value of
a stream is received in this way or not at all (`receiveValue_cases`).

The event is the digit of the packed octet, the value of an `enum mrp_attr_event`, taken for
an `enum mrp_event` (`passedAs`).  `receivedValue_effect_iff` says for which values the
registrar ends up where it should all the same.
-/
import AvbSwitch.MsrpFrames
import AvbSwitch.MsrpReceive

namespace Msrp

open Octets

variable {n : ℕ} {env : Env n} {t t' : State n} {p q : Fin n} {ref x : MachineRef}
  {event : MrpEvent} {r : ℤ} {ptr : Option MachineRef} {v : RxValue}

/-! ### Streams and machines of values -/

/-- No entry of `stream_info_vars` has this StreamID, whether it is in use or not. -/
def StreamAbsent (t : State n) (id : UInt32 × UInt32) : Prop :=
  ∀ i, (t.streamInfoVars i).streamID ≠ id

instance (t : State n) (id : UInt32 × UInt32) : Decidable (StreamAbsent t id) :=
  inferInstanceAs (Decidable (∀ i, (t.streamInfoVars i).streamID ≠ id))

theorem vtssMsrpFindStream_eq_none {signed : Bool} {fv : ℕ → UInt8} {num : ℕ} :
    vtssMsrpFindStream signed t fv num = none ↔ StreamAbsent t (wireStreamID signed fv num) := by
  rw [vtssMsrpFindStream, List.find?_eq_none, StreamAbsent]
  simp

/-- The StreamID of a value, as the source puts it together. -/
def RxValue.wireID (signed : Bool) (v : RxValue) : UInt32 × UInt32 :=
  wireStreamID signed v.firstValue v.i

/-- The machine that a value gets. -/
def registeredMachine (v : RxValue) (info : Fin 10) (id : UInt32 × UInt32) (old : MadMachine) :
    MadMachine :=
  { old with
    regState := .MT
    attributeType := v.attrType
    attributeInfo := some info
    fourVectorParameter := v.fourPackedEvent
    isFourVector := if v.fourPackedEvent ≠ 0 then true else old.isFourVector
    attrDir := .reg
    used := true
    streamID := id }

/-- A state in which a value has its stream and its machine. -/
def State.registered (t : State n) (p : Fin n) (v : RxValue) (info : Fin 10) (s : StreamInfo)
    (i : Fin 24) : State n :=
  (t.setStream info s).setMachine p (.slot i)
    (registeredMachine v info s.streamID (t.machine p (.slot i)))

@[simp] theorem State.setStream_self {info : Fin 10} {s : StreamInfo} :
    (t.setStream info s).streamInfoVars info = s := by
  simp only [State.setStream, Function.update_self]

section Registered

variable {info : Fin 10} {s : StreamInfo} {i : Fin 24}

@[simp] theorem State.registered_stream : (t.registered p v info s i).streamInfoVars info = s := by
  rw [State.registered, State.setMachine_streamInfoVars, State.setStream_self]

@[simp] theorem State.registered_reservations :
    (t.registered p v info s i).reservations = t.reservations := rfl

@[simp] theorem State.registered_log : (t.registered p v info s i).log = t.log := rfl

@[simp] theorem State.registered_machine_self : (t.registered p v info s i).machine p (.slot i) =
    registeredMachine v info s.streamID (t.machine p (.slot i)) := State.setMachine_machine_self

theorem State.registered_machine_of_ne (h : ¬ (q = p ∧ x = .slot i)) :
    (t.registered p v info s i).machine q x = t.machine q x := by
  rw [State.registered, State.setMachine_machine, if_neg h]
  rfl

end Registered

/-- Room for another stream is found in the array. -/
theorem vtssMsrpAllocateStream_eq (signed : Bool) (ty : AttributeType) (fv : ℕ → UInt8) (num : ℕ)
    {info : Fin 10} (hfree : vtssMsrpGetFreeStream t = some info) :
    ∃ s : StreamInfo, s.used = true ∧ s.streamID = wireStreamID signed fv num ∧
      vtssMsrpAllocateStream signed t ty fv num = some (t.setStream info s, info) := by
  rw [vtssMsrpAllocateStream, hfree]
  refine ⟨_, ?_, ?_, rfl⟩
  all_goals
    dsimp only
    split
    · rw [talkerInfo]
      split <;> rfl
    · rfl

/-- A value of a stream that is not in the table. -/
theorem receiveValue_eq {info : Fin 10} {i : Fin 24} (ptr : Option MachineRef) (hstream : v.attrType.IsStream)
    (habsent : StreamAbsent t (v.wireID env.charSigned))
    (hfree : vtssMsrpGetFreeStream t = some info) (hi : firstUnused t p = some i) :
    ∃ s : StreamInfo, s.used = true ∧ s.streamID = v.wireID env.charSigned ∧
      receiveValue env p t ptr v =
        deliver env p (t.registered p v info s i) (some (.slot i)) v.threePackedEvent := by
  obtain ⟨s, hused, hid, halloc⟩ := vtssMsrpAllocateStream_eq env.charSigned
    v.attrType v.firstValue v.i hfree
  refine ⟨s, hused, hid, ?_⟩
  rw [firstUnused] at hi
  have hreg : getAttributeReg (t.setStream info s) p = some ((t.setStream info s).setMachine p
      (.slot i) { t.machine p (.slot i) with regState := .MT, attrDir := .reg, used := true }, i) := by
    rw [getAttributeReg]
    show ((List.finRange 24).find? fun i => (t.machine p (.slot i)).used = false).map _ = _
    rw [hi]
    rfl
  rw [receiveValue, if_neg hstream, vtssMsrpFindStream_eq_none.mpr habsent, halloc]
  dsimp only
  rw [hreg]
  dsimp only
  rw [mrpAttributeInit, State.setMachine_setMachine, State.setMachine_machine_self,
    State.setMachine_streamInfoVars, State.setStream_self]
  rfl

/-- No other value of a stream is received. -/
theorem receiveValue_cases {r : State n × Option MachineRef} (hstream : v.attrType.IsStream)
    (h : receiveValue env p t ptr v = some r) :
    StreamAbsent t (v.wireID env.charSigned) ∧
      ∃ info i, vtssMsrpGetFreeStream t = some info ∧ firstUnused t p = some i := by
  rw [receiveValue, if_neg hstream] at h
  rcases hfind : vtssMsrpFindStream env.charSigned t v.firstValue v.i with _ | known
  · refine ⟨vtssMsrpFindStream_eq_none.mp hfind, ?_⟩
    rw [hfind, vtssMsrpAllocateStream] at h
    rcases hfree : vtssMsrpGetFreeStream t with _ | info
    · simp [hfree] at h
    · rcases hi : firstUnused t p with _ | i
      · have hnone : ∀ s, getAttributeReg (t.setStream info s) p = none := by
          intro s
          rw [getAttributeReg]
          show ((List.finRange 24).find? fun i => (t.machine p (.slot i)).used = false).map _ = _
          rw [firstUnused] at hi
          rw [hi]
          rfl
        simp [hfree, hnone] at h
      · exact ⟨info, i, rfl, rfl⟩
  · -- the search for the machine of a known stream ends without a result
    simp [hfind, findAttributeByExistingStreamInfo] at h

/-! ### Events of values -/

/-- The event of the state machines whose number is that of the event of a value. -/
def AttrEvent.passedAs : AttrEvent → MrpEvent
  | .new => .unkown
  | .joinIn => .new
  | .in => .join
  | .joinMt => .lv
  | .mt => .rNew
  | .lv => .rJoinIn

theorem mrpEventOfInt_index (e : AttrEvent) : mrpEventOfInt e.index = some e.passedAs := by
  cases e <;> rfl

theorem mrpEventOfInt_of_neg {c : ℤ} (h : c < 0) : mrpEventOfInt c = none := by
  rw [mrpEventOfInt, Option.filter_eq_none_iff]
  intro e _
  simpa using h

/-- A packed octet that is not negative as a plain `char` is decoded to the digit of the event. -/
theorem decodeThreepacked_of_nonneg {signed : Bool} {octet : UInt8} {c : ℕ}
    (h : ¬ (signed = true ∧ 128 ≤ octet.toNat)) :
    decodeThreepacked (charVal signed octet) c = ((octet.toNat / 6 ^ (2 - c) % 6 : ℕ) : ℤ) := by
  rw [charVal, if_neg h, decodeThreepacked, decodePacked_natCast]

/-- A negative one is decoded to a digit of its absolute value, with a minus sign. -/
theorem decodeThreepacked_of_neg {signed : Bool} {octet : UInt8} {c : ℕ}
    (h : signed = true ∧ 128 ≤ octet.toNat) :
    decodeThreepacked (charVal signed octet) c =
      -(((256 - octet.toNat) / 6 ^ (2 - c) % 6 : ℕ) : ℤ) := by
  have hlt : octet.toNat < 256 := octet.toNat_lt
  rw [charVal, if_pos h, decodeThreepacked,
    show (octet.toNat : ℤ) - 256 = -((256 - octet.toNat : ℕ) : ℤ) by omega, decodePacked_neg,
    decodePacked_natCast]

theorem deliver_eq {c : ℤ} {e : MrpEvent} (hc : mrpEventOfInt c = some e) :
    deliver env p t (some ref) c = (madAttrEvent env t p ref e).map fun r => (r.1, some ref) := by
  simp only [deliver, hc]

theorem deliver_of_neg {c : ℤ} (hc : c < 0) : deliver env p t (some ref) c = none := by
  simp only [deliver, mrpEventOfInt_of_neg hc]

/-! ### The machine of a value -/

/-- Where an event leads from `MT`. -/
def fromMT (e : MrpEvent) : RegistrarState :=
  if (registrarEntry .MT e).state = .invalid then .MT else (registrarEntry .MT e).state

/-- An event is passed to the machine of a value: what becomes of the machine. -/
theorem madAttrEvent_registered {info : Fin 10} {s : StreamInfo} {i : Fin 24}
    (hstream : v.attrType.IsStream)
    (h : madAttrEvent env (t.registered p v info s i) p (.slot i) event = some (t', r)) :
    t'.streamInfoVars info = s ∧ ∃ a, t'.machine p (.slot i) =
      ((registeredMachine v info s.streamID (t.machine p (.slot i))).withRegState
        (fromMT event)).withAppState a := by
  have hself : (t.registered p v info s i).machine p (.slot i) =
      registeredMachine v info s.streamID (t.machine p (.slot i)) := State.registered_machine_self
  obtain ⟨hstreams, ⟨a, ha⟩, -⟩ := madAttrEvent_stream (i := info) (by rw [hself]; rfl)
    (by rw [hself]; exact hstream) (by rw [hself]; rfl) h
  refine ⟨by rw [hstreams, State.registered_stream], a, ?_⟩
  rw [ha, hself]
  rfl

/-- It is defined if a join that it raises finds what it needs. -/
theorem madAttrEvent_registered_isSome {info : Fin 10} {s : StreamInfo} {i : Fin 24} (env : Env n)
    (hstream : v.attrType.IsStream) (hsilent : event.Silent) :
    (madAttrEvent env (t.registered p v info s i) p (.slot i) event).isSome ↔
      ((registrarEntry .MT event).state ≠ .invalid → IsJoin (registrarEntry .MT event).action →
        JoinRoom t p v.attrType s.streamID) := by
  have hself : (t.registered p v info s i).machine p (.slot i) =
      registeredMachine v info s.streamID (t.machine p (.slot i)) := State.registered_machine_self
  rw [madAttrEvent_isSome (i := info) env _ hsilent (by rw [hself]; rfl)
    (by rw [hself]; exact hstream) (by rw [hself]; rfl), hself, State.registered_stream]
  refine imp_congr_right fun _ => imp_congr_right fun _ => ?_
  -- the value's machine is on port `p`, so that the other ports have the same machines
  have hother : ∀ q, q ≠ p → firstUnused (t.registered p v info s i) q = firstUnused t q := by
    intro q hq
    simp only [firstUnused, State.registered_machine_of_ne fun h => hq h.1]
  rw [JoinRoom, JoinRoom]
  refine and_congr Iff.rfl (forall₂_congr fun q hq => ?_)
  rw [hother q hq]
  rfl

/-! ### The effect on the registrar -/

/-- Where the event of a value should take a registrar that is in `MT`. -/
def registeredState : AttrEvent → RegistrarState
  | .new | .joinIn | .joinMt => .IN
  | .in | .mt | .lv => .MT

theorem fromMT_passedAs (e : AttrEvent) :
    fromMT e.passedAs = registeredState e ↔ e ≠ .new ∧ e ≠ .in := by
  cases e <;> decide

/-- The value is received, and the machine that is created for it is in state `s`. -/
def RegistersAs (env : Env n) (p : Fin n) (t : State n) (ptr : Option MachineRef) (v : RxValue)
    (s : RegistrarState) : Prop :=
  ∃ t' i info, receiveValue env p t ptr v = some (t', some (.slot i)) ∧
    (t.machine p (.slot i)).used = false ∧
    (t'.machine p (.slot i)).used = true ∧
    (t'.machine p (.slot i)).attrDir = .reg ∧
    (t'.machine p (.slot i)).attributeType = v.attrType ∧
    (t'.machine p (.slot i)).attributeInfo = some info ∧
    (t'.streamInfoVars info).streamID = v.wireID env.charSigned ∧
    (t'.machine p (.slot i)).regState = s

/-- The event that the octet is decoded to takes a registrar in `MT` where `e` should. -/
def EffectKept (signed : Bool) (octet : UInt8) (c : ℕ) (e : AttrEvent) : Prop :=
  if signed = true ∧ 128 ≤ octet.toNat then
    (256 - octet.toNat) / 6 ^ (2 - c) % 6 = 0 ∧ registeredState e = .MT
  else e ≠ .new ∧ e ≠ .in

instance (signed : Bool) (octet : UInt8) (c : ℕ) (e : AttrEvent) :
    Decidable (EffectKept signed octet c e) :=
  inferInstanceAs (Decidable (if signed = true ∧ 128 ≤ octet.toNat then _ else _))

theorem used_of_firstUnused {i : Fin 24} (h : firstUnused t q = some i) :
    (t.machine q (.slot i)).used = false := by
  simpa using List.find?_some h

/-- With entries free in all tables, the machine of a value ends up where the decoded event takes
a registrar that is in `MT`. -/
theorem registersAs_iff {c : ℤ} {s : RegistrarState} (hstream : v.attrType.IsStream)
    (hevent : v.threePackedEvent = c) (hinfo : vtssMsrpGetFreeStream t ≠ none)
    (hmachine : ∀ q, firstUnused t q ≠ none) (hres : msrpGetFreeReservation t ≠ none)
    (hsilent : ∀ e, mrpEventOfInt c = some e → e.Silent) :
    RegistersAs env p t ptr v s ↔
      StreamAbsent t (v.wireID env.charSigned) ∧ ∃ e, mrpEventOfInt c = some e ∧ fromMT e = s := by
  obtain ⟨info, hfree⟩ := Option.ne_none_iff_exists'.mp hinfo
  obtain ⟨i, hi⟩ := Option.ne_none_iff_exists'.mp (hmachine p)
  subst hevent
  constructor
  · rintro ⟨t', j, info', h, -, -, -, -, -, -, hs⟩
    obtain ⟨habsent, -⟩ := receiveValue_cases hstream h
    refine ⟨habsent, ?_⟩
    obtain ⟨sinfo, -, -, heq⟩ := receiveValue_eq ptr hstream habsent hfree hi
    rw [heq] at h
    rcases he : mrpEventOfInt v.threePackedEvent with _ | e
    · simp [deliver, he] at h
    · rw [deliver_eq he, Option.map_eq_some_iff] at h
      obtain ⟨⟨u, r⟩, hu, hpair⟩ := h
      simp only [Prod.mk.injEq, Option.some_inj, MachineRef.slot.injEq] at hpair
      obtain ⟨rfl, rfl⟩ := hpair
      obtain ⟨-, a, ha⟩ := madAttrEvent_registered hstream hu
      rw [ha] at hs
      exact ⟨e, rfl, hs⟩
  · rintro ⟨habsent, e, he, rfl⟩
    obtain ⟨sinfo, hused, hid, heq⟩ := receiveValue_eq ptr hstream habsent hfree hi
    have hdefined : (madAttrEvent env (t.registered p v info sinfo i) p (.slot i) e).isSome :=
      (madAttrEvent_registered_isSome env hstream (hsilent e he)).mpr fun _ _ =>
        ⟨Or.inr hres, fun q _ _ => hmachine q⟩
    obtain ⟨⟨t', r⟩, ht⟩ := Option.isSome_iff_exists.mp hdefined
    obtain ⟨hstreams, a, ha⟩ := madAttrEvent_registered hstream ht
    refine ⟨t', i, info, ?_, used_of_firstUnused hi, ?_⟩
    · rw [heq, deliver_eq he, ht]
      rfl
    · rw [ha, hstreams]
      exact ⟨rfl, rfl, rfl, rfl, hid, rfl⟩

/-- The event that a packed octet is decoded to takes a registrar in `MT` where the event that is
in the octet should, exactly if the effect is kept. -/
theorem effectKept_iff {signed : Bool} {octet : UInt8} {c : ℕ} {e : AttrEvent}
    (he : e.index = octet.toNat / 6 ^ (2 - c) % 6) :
    (∃ e', mrpEventOfInt (decodeThreepacked (charVal signed octet) c) = some e' ∧
        fromMT e' = registeredState e) ↔ EffectKept signed octet c e := by
  rw [EffectKept]
  by_cases h : signed = true ∧ 128 ≤ octet.toNat
  · rw [if_pos h, decodeThreepacked_of_neg h]
    rcases Nat.eq_zero_or_pos ((256 - octet.toNat) / 6 ^ (2 - c) % 6) with h0 | hpos
    · -- event 0, which no row has an entry for
      have hzero : mrpEventOfInt (-((0 : ℕ) : ℤ)) = some .unkown := rfl
      rw [h0, hzero]
      simp only [Option.some_inj, exists_eq_left', true_and]
      exact eq_comm
    · rw [mrpEventOfInt_of_neg (by omega)]
      exact iff_of_false (fun ⟨_, he', _⟩ => nomatch he') fun h0 => by omega
  · rw [if_neg h, decodeThreepacked_of_nonneg h, ← he, mrpEventOfInt_index]
    simp only [Option.some_inj, exists_eq_left']
    exact fromMT_passedAs e

theorem mrpEventOfInt_decode_silent {signed : Bool} {octet : UInt8} {c : ℕ} {e : MrpEvent}
    (h : mrpEventOfInt (decodeThreepacked (charVal signed octet) c) = some e) : e.Silent := by
  -- the decoded number is a digit or it is not positive
  obtain ⟨d, hd, hc⟩ : ∃ d : ℕ, d < 6 ∧
      (decodeThreepacked (charVal signed octet) c = d ∨
        decodeThreepacked (charVal signed octet) c = -(d : ℤ)) := by
    by_cases hneg : signed = true ∧ 128 ≤ octet.toNat
    · exact ⟨_, Nat.mod_lt _ (by omega), Or.inr (decodeThreepacked_of_neg hneg)⟩
    · exact ⟨_, Nat.mod_lt _ (by omega), Or.inl (decodeThreepacked_of_nonneg hneg)⟩
  have hdigit : ∀ d < 6, ∀ e, mrpEventOfInt ((d : ℕ) : ℤ) = some e → e.Silent := by
    intro d hd e he
    interval_cases d
    all_goals
      rw [← Option.some_inj.mp he]
      decide
  rcases hc with hc | hc
  · exact hdigit d hd e (hc ▸ h)
  · rcases Nat.eq_zero_or_pos d with rfl | hpos
    · exact hdigit 0 hd e (by rw [hc] at h; exact h)
    · rw [hc, mrpEventOfInt_of_neg (by omega)] at h
      exact absurd h (Option.some_ne_none e).symm

/-! ### Leaves -/

/-- A Leave is passed to a machine in `IN`: the machine goes to `LV` and the leave timer runs. -/
def LeavesIn (env : Env n) (p : Fin n) (t : State n) (ref : MachineRef) (c : ℤ) : Prop :=
  ∃ t' ptr, deliver env p t (some ref) c = some (t', ptr) ∧
    (t'.machine p ref).regState = .LV ∧ (t'.ports p).leaveTimer.running = true

theorem registrarTimer_running (t : State n) (p : Fin n) :
    ((registrarTimer t p Action.startLeaveTimer).ports p).leaveTimer.running = true := by
  rw [registrarTimer]
  split
  · rw [State.record_ports, State.setPort_ports_self]
  · next h =>
    have hmask : Action.startLeaveTimer &&& Action.timerMask = Action.startLeaveTimer := rfl
    simpa [hmask] using h

theorem setRegState_leaveTimer (t : State n) (p : Fin n) (ref : MachineRef) (s : RegistrarState) :
    ((t.setRegState p ref s).ports p).leaveTimer = (t.ports p).leaveTimer := by
  rw [State.setRegState, State.setMachine, State.setPort_ports_self]
  rfl

/-- `MRP_EVENT_R_JOIN_IN` is the one of the events that a Leave is taken for. -/
theorem leavesIn_of_rJoinIn {c : ℤ} (hreg : (t.machine p ref).attrDir = .reg)
    (hin : (t.machine p ref).regState = .IN) (hc : mrpEventOfInt c = some .rJoinIn) :
    LeavesIn env p t ref c := by
  set called := t.record (.madAttrEvent p ref .rJoinIn) with hcalled
  have hentry : registrarEntry (called.machine p ref).regState .rJoinIn =
      ⟨.LV, Action.startLeaveTimer⟩ := by
    rw [hcalled, State.record_machine, hin]
    rfl
  have hregistrar : registrar env called p ref .rJoinIn =
      some ((registrarTimer called p Action.startLeaveTimer).setRegState p ref .LV) := by
    rw [registrar, hentry, if_neg RegistrarState.noConfusion]
    rfl
  obtain ⟨t', ht⟩ := applicant_defined env
    ((registrarTimer called p Action.startLeaveTimer).setRegState p ref .LV) p ref
    (show MrpEvent.rJoinIn.Silent by decide)
  have happ := applicant_appOnly ht
  obtain ⟨a, ha⟩ := happ.machine
  refine ⟨t', some ref, ?_, ?_, ?_⟩
  · rw [deliver_eq hc, madAttrEvent, if_neg (hreg ▸ AttributeDirection.noConfusion), hregistrar]
    show (applicant env _ p ref .rJoinIn).map _ = _
    rw [ht]
    rfl
  · rw [ha, if_pos (And.intro rfl rfl), State.setRegState, State.setMachine_machine_self]
    rfl
  · rw [happ.leaveTimer, setRegState_leaveTimer]
    exact registrarTimer_running called p

/-- No event is taken for a Leave that is not in the registrar's table. -/
theorem not_leavesIn_of_unkown {c : ℤ} (hreg : (t.machine p ref).attrDir = .reg)
    (hin : (t.machine p ref).regState = .IN) (hc : mrpEventOfInt c = some .unkown) :
    ¬ LeavesIn env p t ref c := by
  rintro ⟨t', ptr, h, hlv, -⟩
  rw [deliver_eq hc, Option.map_eq_some_iff] at h
  obtain ⟨⟨u, r⟩, hu, hpair⟩ := h
  obtain ⟨w, hw, happ⟩ := madAttrEvent_reg hreg hu
  have hentry : (registrarEntry ((t.record (.madAttrEvent p ref .unkown)).machine p ref).regState
      .unkown).state = .invalid := by
    rw [State.record_machine, hin]
    rfl
  rcases registrar_cases hw with ⟨-, rfl⟩ | ⟨hne, -⟩
  · obtain ⟨a, ha⟩ := (applicant_appOnly happ).machine
    simp only [Prod.mk.injEq] at hpair
    rw [← hpair.1, ha, if_pos (And.intro rfl rfl)] at hlv
    have hstate : (t.machine p ref).regState = .LV := hlv
    rw [hin] at hstate
    exact absurd hstate (by decide)
  · exact hne hentry

theorem leavesIn_iff {signed : Bool} {octet : UInt8} {c : ℕ}
    (hreg : (t.machine p ref).attrDir = .reg) (hin : (t.machine p ref).regState = .IN)
    (hlv : AttrEvent.lv.index = octet.toNat / 6 ^ (2 - c) % 6) :
    LeavesIn env p t ref (decodeThreepacked (charVal signed octet) c) ↔
      ¬ (signed = true ∧ 128 ≤ octet.toNat) := by
  by_cases h : signed = true ∧ 128 ≤ octet.toNat
  · refine iff_of_false ?_ (not_not.mpr h)
    rw [decodeThreepacked_of_neg h]
    rcases Nat.eq_zero_or_pos ((256 - octet.toNat) / 6 ^ (2 - c) % 6) with h0 | hpos
    · rw [h0]
      exact not_leavesIn_of_unkown hreg hin rfl
    · rintro ⟨t', ptr, hdeliver, -⟩
      rw [deliver_of_neg (by omega)] at hdeliver
      exact nomatch hdeliver
  · refine iff_of_true ?_ h
    rw [decodeThreepacked_of_nonneg h, ← hlv]
    exact leavesIn_of_rJoinIn hreg hin (mrpEventOfInt_index .lv)

/-- The value of a stream is received with entries free in all tables.  Its machine ends up as its
event says if and only if the StreamID is in no entry of `stream_info_vars` and the effect of the
event is kept; and a Leave has its effect on a machine in `IN` if and only if its octet is not
negative as a plain `char`. -/
theorem receivedValue_effect_iff (env : Env n) (p : Fin n) (t : State n) (octet : UInt8) :
    (∀ (ptr : Option MachineRef) (v : RxValue) (e : AttrEvent), v.attrType.IsStream →
      v.threePackedEvent = decodeThreepacked (charVal env.charSigned octet) (v.i % 3) →
      e.index = octet.toNat / 6 ^ (2 - v.i % 3) % 6 →
      vtssMsrpGetFreeStream t ≠ none → (∀ q, firstUnused t q ≠ none) →
      msrpGetFreeReservation t ≠ none →
      (RegistersAs env p t ptr v (registeredState e) ↔
        StreamAbsent t (v.wireID env.charSigned) ∧
          EffectKept env.charSigned octet (v.i % 3) e)) ∧
    (∀ (ref : MachineRef) (i : ℕ), (t.machine p ref).attrDir = .reg →
      (t.machine p ref).regState = .IN →
      AttrEvent.lv.index = octet.toNat / 6 ^ (2 - i % 3) % 6 →
      (LeavesIn env p t ref (decodeThreepacked (charVal env.charSigned octet) (i % 3)) ↔
        ¬ (env.charSigned = true ∧ 128 ≤ octet.toNat))) := by
  refine ⟨fun ptr v e hstream hevent he hinfo hmachine hres => ?_, fun ref i hreg hin hlv => ?_⟩
  · rw [registersAs_iff hstream hevent hinfo hmachine hres fun e' => mrpEventOfInt_decode_silent,
      effectKept_iff he]
  · exact leavesIn_iff hreg hin hlv

/-- The value of a Talker Advertise with StreamID `(0, 1)`, number 0 of its vector. -/
def talkerValue (e : AttrEvent) : RxValue where
  attrType := .talkerAdvertise
  firstValue k := if k = 7 then 1 else 0
  i := 0
  threePackedEvent := e.index
  fourPackedEvent := 0

/-- A Talker that is declared with JoinIn is registered, and a Leave takes a Talker in `IN` to
`LV`. -/
theorem receivedValue_effect_joinIn_lv :
    RegistersAs ⟨true, fun _ _ => false⟩ 0 (State.idle 1) none (talkerValue .joinIn) .IN ∧
      LeavesIn ⟨true, fun _ _ => false⟩ 0 registeredTalker (.slot 0)
        (decodeThreepacked (charVal true 5) 2) := by
  constructor
  · exact ((receivedValue_effect_iff ⟨true, fun _ _ => false⟩ 0 (State.idle 1) 36).1 none
      (talkerValue .joinIn) .joinIn (by decide) rfl rfl (by decide) (by decide) (by decide)).mpr
        ⟨by decide, by decide⟩
  · exact ((receivedValue_effect_iff ⟨true, fun _ _ => false⟩ 0 registeredTalker 5).2 (.slot 0) 2
      rfl rfl rfl).mpr (by decide)

/-- The Talker is declared with New: there are entries free in all tables and its StreamID is in
none of them, but its machine stays in `MT`. -/
theorem receivedNew_not_registered :
    StreamAbsent (State.idle 1) ((talkerValue .new).wireID true) ∧
      vtssMsrpGetFreeStream (State.idle 1) ≠ none ∧ firstUnused (State.idle 1) 0 ≠ none ∧
      msrpGetFreeReservation (State.idle 1) ≠ none ∧
      ¬ RegistersAs ⟨true, fun _ _ => false⟩ 0 (State.idle 1) none (talkerValue .new) .IN := by
  refine ⟨by decide, by decide, by decide, by decide, ?_⟩
  rw [registersAs_iff (c := 0) (by decide) rfl (by decide) (by decide) (by decide)
    fun e he => by rw [← Option.some_inj.mp he]; decide]
  rintro ⟨-, e, he, hin⟩
  rw [← Option.some_inj.mp he] at hin
  exact absurd hin (by decide)

end Msrp
