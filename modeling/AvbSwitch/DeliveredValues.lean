/-
Which machines the values of a frame are delivered to.

`Delivered` says that a value goes to the machine that it is meant for and to no other;
`Fits` says when it does: the value is that of a new stream, its StreamID is read as it is
meant, and there is room for all that it needs.  A value that does not fit goes nowhere, or to
the machine of the value before it.  `values_delivered_iff` puts the two together for all the
values of a frame.
-/
import AvbSwitch.ReceivedValues

namespace Msrp

open Octets

variable {n : ℕ} {env : Env n} {t t' : State n} {p q : Fin n} {ref x : MachineRef} {m : MadMachine}
  {event : MrpEvent} {r : ℤ} {ptr : Option MachineRef} {v : RxValue} {signed : Bool}

/-! ### StreamIDs -/

/-- The StreamID of a value: the eight octets of the first value as a number, plus the number of
the value. -/
def RxValue.streamID (v : RxValue) : UInt32 × UInt32 :=
  let x := get4 v.firstValue 0 * 4294967296 + get4 v.firstValue 4 + v.i
  (UInt32.ofNat (x / 4294967296), UInt32.ofNat x)

/-- No octet of the StreamID is negative as a plain `char` unless it is the first one of its word,
and counting up stays within the second word. -/
def StreamIDKept (signed : Bool) (v : RxValue) : Prop :=
  (∀ k ∈ [1, 2, 3, 5, 6, 7], ¬ (signed = true ∧ 128 ≤ (v.firstValue k).toNat)) ∧
    get4 v.firstValue 4 + v.i < 4294967296

instance (signed : Bool) (v : RxValue) : Decidable (StreamIDKept signed v) :=
  inferInstanceAs (Decidable (_ ∧ _))

/-- 1 for an octet that is negative as a plain `char`. -/
def negative (signed : Bool) (x : UInt8) : ℕ := if signed = true ∧ 128 ≤ x.toNat then 1 else 0

theorem negative_le (signed : Bool) (x : UInt8) : negative signed x ≤ 1 := by
  rw [negative]
  split <;> omega

theorem negative_eq_zero {x : UInt8} :
    negative signed x = 0 ↔ ¬ (signed = true ∧ 128 ≤ x.toNat) := by
  rw [negative]
  split <;> simp [*]

theorem charWord_toNat (signed : Bool) (x : UInt8) :
    (charWord signed x).toNat = x.toNat + 4294967040 * negative signed x := by
  have hx : x.toNat < 256 := x.toNat_lt
  rw [charWord, toNat_ofInt, charVal, negative]
  split <;> omega

/-- What the negative octets of a word do to it. -/
theorem shiftIn_charWord (signed : Bool) (fv : ℕ → UInt8) (a : ℕ) :
    (shiftIn (charWord signed (fv a)) (charWord signed (fv (a + 1))) (charWord signed (fv (a + 2)))
        (charWord signed (fv (a + 3)))).toNat =
      (get4 fv a + 4278190080 * negative signed (fv (a + 1)) +
        4294901760 * negative signed (fv (a + 2)) + 4294967040 * negative signed (fv (a + 3))) %
          4294967296 := by
  rw [shiftIn_toNat]
  simp only [charWord_toNat, get4, get2, show a + 2 + 1 = a + 3 from rfl]
  omega

/-- The negative octets do not make up for a carry, nor for one another. -/
theorem word_eq_iff {w b1 b2 b3 c : ℕ} (h1 : b1 ≤ 1) (h2 : b2 ≤ 1) (h3 : b3 ≤ 1) (hc : c ≤ 1) :
    (w + 4278190080 * b1 + 4294901760 * b2 + 4294967040 * b3) % 4294967296 =
        (w + c) % 4294967296 ↔ b1 = 0 ∧ b2 = 0 ∧ b3 = 0 ∧ c = 0 := by
  omega

theorem wireID_eq_iff (hi : v.i < 8192) : v.wireID signed = v.streamID ↔ StreamIDKept signed v := by
  have hle := fun k => negative_le signed (v.firstValue k)
  set high := get4 v.firstValue 0 with hhigh
  set low := get4 v.firstValue 4 with hlow
  have hlt : low < 4294967296 := get4_lt v.firstValue 4
  have hdiv : (high * 4294967296 + low + v.i) / 4294967296 = high + (low + v.i) / 4294967296 := by
    omega
  have hcarry : (low + v.i) / 4294967296 ≤ 1 := by omega
  have hword0 := shiftIn_charWord signed v.firstValue 0
  have hword4 := shiftIn_charWord signed v.firstValue 4
  simp only [Nat.zero_add, Nat.reduceAdd, ← hhigh, ← hlow] at hword0 hword4
  -- the first word, to which the carry belongs
  have hfst : (v.wireID signed).1 = v.streamID.1 ↔ negative signed (v.firstValue 1) = 0 ∧
      negative signed (v.firstValue 2) = 0 ∧ negative signed (v.firstValue 3) = 0 ∧
        (low + v.i) / 4294967296 = 0 := by
    rw [← word_eq_iff (hle 1) (hle 2) (hle 3) hcarry, ← UInt32.toNat_inj]
    show (shiftIn _ _ _ _).toNat = (UInt32.ofNat ((high * 4294967296 + low + v.i) / 4294967296)).toNat ↔ _
    rw [hword0, hdiv, UInt32.toNat_ofNat']
  -- the second one, to which both sides add the number of the value
  have hsnd : (v.wireID signed).2 = v.streamID.2 ↔ negative signed (v.firstValue 5) = 0 ∧
      negative signed (v.firstValue 6) = 0 ∧ negative signed (v.firstValue 7) = 0 ∧ 0 = 0 := by
    rw [← word_eq_iff (hle 5) (hle 6) (hle 7) (Nat.zero_le 1), ← UInt32.toNat_inj]
    show (shiftIn _ _ _ _ + UInt32.ofNat v.i).toNat =
      (UInt32.ofNat (high * 4294967296 + low + v.i)).toNat ↔ _
    rw [UInt32.toNat_add, hword4, UInt32.toNat_ofNat', UInt32.toNat_ofNat']
    generalize low + 4278190080 * negative signed (v.firstValue 5) +
      4294901760 * negative signed (v.firstValue 6) +
        4294967040 * negative signed (v.firstValue 7) = w
    omega
  rw [Prod.ext_iff, hfst, hsnd, StreamIDKept]
  simp only [List.forall_mem_cons, List.not_mem_nil, false_imp_iff, implies_true, and_true,
    ← negative_eq_zero]
  have hzero : (low + v.i) / 4294967296 = 0 ↔ low + v.i < 4294967296 := by omega
  rw [hzero]
  constructor
  · rintro ⟨⟨h1, h2, h3, hno⟩, h5, h6, h7⟩
    exact ⟨⟨h1, h2, h3, h5, h6, h7⟩, hno⟩
  · rintro ⟨⟨h1, h2, h3, h5, h6, h7⟩, hno⟩
    exact ⟨⟨h1, h2, h3, hno⟩, h5, h6, h7⟩

/-! ### The items of a frame -/

/-- What holds of the values of all frames: their number and the octet of their event. -/
def RxItem.Packed (signed : Bool) : RxItem → Prop
  | .leaveAll _ => True
  | .value v => v.i < 8192 ∧
      ∃ octet, v.threePackedEvent = decodeThreepacked (charVal signed octet) (v.i % 3)

theorem numvalues_lt (m : Mem) (msg : ℕ) : numvalues m msg < 8192 := by
  have hlow : (m (msg + 1)).toNat < 256 := (m (msg + 1)).toNat_lt
  have hhigh : (m msg &&& 0x1f).toNat ≤ 31 := by
    rw [UInt8.toNat_and]
    exact Nat.and_le_right
  rw [numvalues, Nat.shiftLeft_eq]
  omega

theorem vectorItems_packed (m : Mem) (ty : AttributeType) (firstValueLen msg : ℕ) :
    ∀ item ∈ vectorItems signed m ty firstValueLen msg, item.Packed signed := by
  intro item hitem
  rcases List.mem_append.mp hitem with h | h
  · split at h
    · rw [List.mem_singleton.mp h]
      trivial
    · exact absurd h List.not_mem_nil
  · obtain ⟨i, hi, rfl⟩ := List.mem_map.mp h
    have hnum := numvalues_lt m msg
    exact ⟨(List.mem_range.mp hi).trans hnum, _, rfl⟩

theorem vectorLoop_packed (signed : Bool) (m : Mem) (fin : ℕ) (ty : AttributeType) (firstValueLen : ℕ) :
    ∀ fuel msg, ∀ item ∈ (vectorLoop signed m fin ty firstValueLen fuel msg).1,
      item.Packed signed := by
  intro fuel
  induction fuel with
  | zero => exact fun msg item h => absurd h List.not_mem_nil
  | succ fuel ih =>
    intro msg item h
    rw [vectorLoop] at h
    split at h
    · dsimp only at h
      split at h
      · exact absurd h List.not_mem_nil
      · exact (List.mem_append.mp h).elim (vectorItems_packed m ty firstValueLen msg item) (ih _ item)
    · exact absurd h List.not_mem_nil

theorem messageLoop_packed (m : Mem) (fin : ℕ) :
    ∀ fuel msg, ∀ item ∈ messageLoop signed m fin fuel msg, item.Packed signed := by
  intro fuel
  induction fuel with
  | zero => exact fun msg item h => absurd h List.not_mem_nil
  | succ fuel ih =>
    intro msg item h
    rw [messageLoop] at h
    split at h
    · split at h
      · exact absurd h List.not_mem_nil
      · next ty _ =>
        have hvector := vectorLoop_packed signed m fin ty (m (msg + 1)).toNat (fin + 1)
          (msg + 4)
        rcases hloop : vectorLoop signed m fin ty (m (msg + 1)).toNat (fin + 1) (msg + 4)
          with ⟨items, _ | next⟩
        · rw [hloop] at h hvector
          exact hvector item h
        · rw [hloop] at h hvector
          exact (List.mem_append.mp h).elim (hvector item) (ih _ item)
    · exact absurd h List.not_mem_nil

theorem rxItems_packed (rxframe : Mem) (len : ℕ) :
    ∀ item ∈ rxItems signed rxframe len, item.Packed signed :=
  messageLoop_packed rxframe len (len + 1) 1

/-! ### LeaveAll -/

/-- `MRP_EVENT_R_LA` is in no row of the registrar's table. -/
theorem registrarEntry_rLa : ∀ s, (registrarEntry s .rLa).state = .invalid := by decide

theorem leaveallEntry_rLa : ∀ s, (leaveallEntry s .rLa).state = .invalid := by decide

theorem madAttrEvent_rLa (env : Env n) (t : State n) (p : Fin n) (ref : MachineRef) :
    ∃ t', madAttrEvent env t p ref .rLa = some (t', 0) := by
  have happ := applicant_defined env (t.record (.madAttrEvent p ref .rLa)) p ref
    (show MrpEvent.rLa.Silent by decide)
  rw [madAttrEvent, declarationEvent, registrar, if_pos (registrarEntry_rLa _)]
  split
  · exact happ
  · exact happ

theorem machineLoop_rLa (env : Env n) (p : Fin n) (selected : MadMachine → Bool) :
    ∀ (is : List (Fin 24)) (t : State n), (machineLoop env p selected .rLa is t).isSome := by
  intro is
  induction is with
  | nil => exact fun t => rfl
  | cons i is ih =>
    intro t
    obtain ⟨t', ht⟩ := madAttrEvent_rLa env t p (.slot i)
    rw [machineLoop, ht]
    dsimp only
    rw [if_neg (lt_irrefl 0)]
    split <;> exact ih _

/-- A LeaveAll is always defined. -/
theorem receiveItem_leaveAll (env : Env n) (p : Fin n) (s : State n × Option MachineRef)
    (ty : AttributeType) : (receiveItem env p s (.leaveAll ty)).isSome := by
  obtain ⟨u, hu⟩ := Option.isSome_iff_exists.mp
    (machineLoop_rLa env p (fun m => m.attributeType = ty) (nextMachines s.1 p) s.1)
  have hloop : madAttrtypeEvent env s.1 p ty .rLa = some u := hu
  rw [receiveItem, hloop, Option.isSome_map, Option.bind_some, madParticipantEvent,
    if_pos (leaveallEntry_rLa _)]
  rfl

/-! ### Calls on a port -/

/-- The machine and the event of a record of a call on port `p`. -/
def Record.callOn (p : Fin n) : Record n → Option (MachineRef × MrpEvent)
  | .madAttrEvent q ref e => if q = p then some (ref, e) else none
  | _ => none

/-- The calls of `mad_attr_event` for machines of port `p`. -/
def callsOn (p : Fin n) (l : List (Record n)) : List (MachineRef × MrpEvent) :=
  l.filterMap (Record.callOn p)

theorem callsOn_cons {l : List (Record n)} :
    callsOn p (.madAttrEvent p ref event :: l) = (ref, event) :: callsOn p l := by
  have hcall : Record.callOn p (.madAttrEvent p ref event) = some (ref, event) := if_pos rfl
  rw [callsOn, List.filterMap_cons, hcall]
  rfl

theorem callsOn_eq_nil {l : List (Record n)}
    (h : ∀ r ∈ l, ∃ q, q ≠ p ∧ ∃ x e, r = .madAttrEvent q x e) : callsOn p l = [] := by
  rw [callsOn, List.filterMap_eq_nil_iff]
  intro r hr
  obtain ⟨q, hq, x, e, rfl⟩ := h r hr
  exact if_neg hq

/-- No event releases anything in `MT`, or starts the leave timer. -/
theorem registrarEntry_MT : ∀ e, ¬ IsLeave (registrarEntry .MT e).action ∧
    (registrarEntry .MT e).action &&& Action.timerMask ≠ Action.startLeaveTimer := by decide

/-- From `MT` the event of a registration is the only call on its port, and the other machines of
the port stay as they are. -/
theorem madAttrEvent_MT (hreg : (t.machine p ref).attrDir = .reg)
    (hmt : (t.machine p ref).regState = .MT) (h : madAttrEvent env t p ref event = some (t', r)) :
    (∃ l, t'.log = t.log ++ l ∧ callsOn p l = [(ref, event)]) ∧
      ∀ x, x ≠ ref → t'.machine p x = t.machine p x := by
  obtain ⟨u, hu, happ⟩ := madAttrEvent_reg hreg h
  have happ' := applicant_appOnly happ
  obtain ⟨a, ha⟩ := happ'.machine
  have hentry := registrarEntry_MT event
  rw [← hmt] at hentry
  have hothers : ∀ x, x ≠ ref → t'.machine p x = u.machine p x := fun x hx => by
    rw [ha, if_neg fun heq => hx heq.2]
  rcases registrar_cases hu with ⟨-, rfl⟩ | ⟨-, v, hv, rfl⟩
  · exact ⟨⟨_, happ'.log, callsOn_cons⟩, hothers⟩
  · rw [State.record_machine] at hv
    have hcalls : (∃ l, v.log = t.log ++ .madAttrEvent p ref event :: l ∧ callsOn p l = []) ∧
        v.machine p = t.machine p := by
      rcases registrarIndication_cases hv with ⟨-, w, s, hind, hcase⟩ | ⟨hl, -⟩ | ⟨-, -, rfl⟩
      · have hres := msrpMadJoinInd_reservationsOnly hind
        rcases hcase with ⟨-, rfl⟩ | ⟨-, new, hprop⟩
        · refine ⟨⟨[], hres.log, rfl⟩, ?_⟩
          funext x
          rw [State.countRegFailure, State.machine, State.setPort_ports_self]
          show w.machine p x = _
          rw [hres.machine]
          rfl
        · -- what a join declares, it declares on the other ports
          obtain ⟨⟨l, hl, hmem⟩, hmachine⟩ := msrpMapJoinPropagate_elsewhere hprop
          refine ⟨⟨l, ?_, callsOn_eq_nil hmem⟩, ?_⟩
          · rw [hl, hres.log, State.record_log, List.append_assoc]
            rfl
          · rw [hmachine, hres.machine]
            rfl
      · exact absurd hl hentry.1
      · exact ⟨⟨[], rfl, rfl⟩, rfl⟩
    obtain ⟨⟨l, hl, hnil⟩, hmachine⟩ := hcalls
    have htimer : registrarTimer v p (registrarEntry (t.machine p ref).regState event).action = v := by
      rw [registrarTimer, if_neg fun hc => hentry.2 hc.1]
    refine ⟨⟨.madAttrEvent p ref event :: l, ?_, by rw [callsOn_cons, hnil]⟩, fun x hx => ?_⟩
    · rw [happ'.log, State.record_machine, htimer]
      exact hl
    · rw [hothers x hx, State.record_machine, htimer, State.setRegState, State.setMachine_machine,
        if_neg fun heq => hx heq.2, hmachine]

/-! ### Delivery -/

/-- A registration of the value's type for its StreamID. -/
def RegisteredFor (t : State n) (p : Fin n) (v : RxValue) (i : Fin 24) : Prop :=
  (t.machine p (.slot i)).used = true ∧ (t.machine p (.slot i)).attrDir = .reg ∧
    (t.machine p (.slot i)).attributeType = v.attrType ∧
    (t.machine p (.slot i)).streamID = v.streamID

instance (t : State n) (p : Fin n) (v : RxValue) (i : Fin 24) : Decidable (RegisteredFor t p v i) :=
  inferInstanceAs (Decidable (_ ∧ _ ∧ _ ∧ _))

/-- The machine that a value is meant for, from `t` to `t'`: `domain_attr_recv` for a Domain, and
for a stream the registration of its type, the one that there is or else a new one. -/
def MeantFor (t t' : State n) (p : Fin n) (v : RxValue) (ref : MachineRef) : Prop :=
  if v.attrType = .domainVector then ref = .domainAttrRecv
  else ∃ i, ref = .slot i ∧ RegisteredFor t' p v i ∧
    if ∃ j, RegisteredFor t p v j then RegisteredFor t p v i else (t.machine p (.slot i)).used = false

/-- On the receiving port the value drives `mad_attr_event` on one machine, the one that it is meant
for, and the others keep their registrar states. -/
def Delivered (env : Env n) (p : Fin n) (s : State n × Option MachineRef) (v : RxValue) : Prop :=
  ∃ s' ref event l, receiveValue env p s.1 s.2 v = some s' ∧ s'.1.log = s.1.log ++ l ∧
    callsOn p l = [(ref, event)] ∧ MeantFor s.1 s'.1 p v ref ∧
    ∀ x, x ≠ ref → (s'.1.machine p x).regState = (s.1.machine p x).regState

/-- The value is that of a new stream, its StreamID is read as it is meant, its event is not
negative, and there is room for all that it needs. -/
structure Fits (env : Env n) (p : Fin n) (t : State n) (v : RxValue) : Prop where
  stream : v.attrType.IsStream
  streamID : StreamIDKept env.charSigned v
  absent : StreamAbsent t v.streamID
  unregistered : ∀ i, ¬ RegisteredFor t p v i
  info : vtssMsrpGetFreeStream t ≠ none
  machine : firstUnused t p ≠ none
  event : 0 ≤ v.threePackedEvent
  room : 1 ≤ v.threePackedEvent ∧ v.threePackedEvent ≤ 3 → JoinRoom t p v.attrType v.streamID

/-- A Domain is passed on to the machine of the value before it. -/
theorem not_delivered_domain {s : State n × Option MachineRef} (hd : v.attrType = .domainVector)
    (hptr : s.2 ≠ some .domainAttrRecv) : ¬ Delivered env p s v := by
  rintro ⟨s', ref, event, l, h, hlog, hcalls, hmeant, -⟩
  rw [MeantFor, if_pos hd] at hmeant
  subst hmeant
  rw [receiveValue, if_pos hd] at h
  rcases hs : s.2 with _ | ref'
  · simp [deliver, hs] at h
  · rcases he : mrpEventOfInt v.threePackedEvent with _ | e
    · simp [deliver, he] at h
    · rw [hs, deliver_eq he, Option.map_eq_some_iff] at h
      obtain ⟨⟨u, r⟩, hu, rfl⟩ := h
      obtain ⟨l', hl'⟩ := madAttrEvent_log hu
      have heq : l = .madAttrEvent p ref' e :: l' := List.append_cancel_left (hlog.symm.trans hl')
      rw [heq, callsOn_cons, List.cons.injEq, Prod.mk.injEq] at hcalls
      rw [hs, hcalls.1.1] at hptr
      exact hptr rfl

/-- The digits that are taken for an event with a join indication in `MT`. -/
theorem joins_iff {d : ℕ} {e : MrpEvent} (hd : d < 6) (he : mrpEventOfInt d = some e) :
    (registrarEntry .MT e).state ≠ .invalid ∧ IsJoin (registrarEntry .MT e).action ↔
      1 ≤ d ∧ d ≤ 3 := by
  interval_cases d
  all_goals
    rw [← Option.some_inj.mp he]
    decide

/-- What the event of a value in a frame can be. -/
theorem threePackedEvent_cases (h : (RxItem.value v).Packed signed) :
    v.threePackedEvent < 0 ∨ ∃ d : ℕ, d < 6 ∧ v.threePackedEvent = d ∧
      ∃ e, mrpEventOfInt d = some e ∧ e.Silent := by
  obtain ⟨-, octet, hoctet⟩ := h
  have hdigit : ∀ d < 6, ∃ e, mrpEventOfInt ((d : ℕ) : ℤ) = some e ∧ e.Silent := by
    intro d hd
    interval_cases d
    all_goals exact ⟨_, rfl, by decide⟩
  by_cases hneg : signed = true ∧ 128 ≤ octet.toNat
  · have heq := decodeThreepacked_of_neg (c := v.i % 3) hneg
    rcases Nat.eq_zero_or_pos ((256 - octet.toNat) / 6 ^ (2 - v.i % 3) % 6) with h0 | hpos
    · exact Or.inr ⟨0, by omega, by rw [hoctet, heq, h0]; rfl, hdigit 0 (by omega)⟩
    · exact Or.inl (by rw [hoctet, heq]; omega)
  · have hlt := Nat.mod_lt (octet.toNat / 6 ^ (2 - v.i % 3)) (show 0 < 6 by omega)
    exact Or.inr ⟨_, hlt, by rw [hoctet, decodeThreepacked_of_nonneg hneg], hdigit _ hlt⟩

/-- What a value leaves that is delivered to a new machine. -/
theorem registered_spec {info : Fin 10} {s : StreamInfo} {i : Fin 24} (hstream : v.attrType.IsStream)
    (h : madAttrEvent env (t.registered p v info s i) p (.slot i) event = some (t', r)) :
    (∃ l, t'.log = t.log ++ l ∧ callsOn p l = [(.slot i, event)]) ∧
      (∀ x, x ≠ .slot i → t'.machine p x = t.machine p x) ∧
      (RegisteredFor t' p v i ↔ s.streamID = v.streamID) := by
  have hself : (t.registered p v info s i).machine p (.slot i) =
      registeredMachine v info s.streamID (t.machine p (.slot i)) := State.registered_machine_self
  obtain ⟨hcalls, hothers⟩ := madAttrEvent_MT (by rw [hself]; rfl) (by rw [hself]; rfl) h
  obtain ⟨-, a, ha⟩ := madAttrEvent_registered hstream h
  refine ⟨hcalls, fun x hx => ?_, ?_⟩
  · rw [hothers x hx, State.registered_machine_of_ne fun heq => hx heq.2]
  · rw [RegisteredFor, ha]
    exact ⟨fun h => h.2.2.2, fun h => ⟨rfl, rfl, rfl, h⟩⟩

/-- A value of a frame is delivered if and only if it fits. -/
theorem delivered_iff {s : State n × Option MachineRef} (hptr : s.2 ≠ some .domainAttrRecv)
    (hpacked : (RxItem.value v).Packed env.charSigned) :
    Delivered env p s v ↔ Fits env p s.1 v := by
  constructor
  · intro hdel
    have hstream : v.attrType.IsStream := fun hd => not_delivered_domain hd hptr hdel
    obtain ⟨s', ref, event, l, h, hlog, hcalls, hmeant, -⟩ := hdel
    obtain ⟨habsent, info, i, hfree, hi⟩ := receiveValue_cases hstream h
    obtain ⟨sinfo, -, hid, heq⟩ := receiveValue_eq s.2 hstream habsent hfree hi
    rw [heq] at h
    rcases threePackedEvent_cases hpacked with hneg | ⟨d, hd, hevent, e, he, hsilent⟩
    · rw [deliver_of_neg hneg] at h
      exact absurd h (Option.some_ne_none s').symm
    · rw [hevent, deliver_eq he, Option.map_eq_some_iff] at h
      obtain ⟨⟨u, r⟩, hu, rfl⟩ := h
      obtain ⟨⟨l', hl', hcalls'⟩, -, hregistered⟩ := registered_spec hstream hu
      have href : ref = .slot i := by
        rw [List.append_cancel_left (hlog.symm.trans hl'), hcalls'] at hcalls
        simp only [List.cons.injEq, Prod.mk.injEq, and_true] at hcalls
        exact hcalls.1.symm
      rw [MeantFor, if_neg hstream, href] at hmeant
      obtain ⟨i', hi', hfor, hold⟩ := hmeant
      rw [← MachineRef.slot.inj hi'] at hfor hold
      have hkept : v.wireID env.charSigned = v.streamID := hid ▸ hregistered.mp hfor
      have hnone : ¬ ∃ j, RegisteredFor s.1 p v j := by
        intro hex
        rw [if_pos hex] at hold
        exact absurd (hold.1.symm.trans (used_of_firstUnused hi)) (by decide)
      refine ⟨hstream, (wireID_eq_iff hpacked.1).mp hkept, hkept ▸ habsent,
        fun j hj => hnone ⟨j, hj⟩, by simp [hfree], by simp [hi], by omega, fun hjoin => ?_⟩
      have hsome := (madAttrEvent_registered_isSome env hstream hsilent).mp
        (Option.isSome_iff_exists.mpr ⟨_, hu⟩)
      have hboth := (joins_iff hd he).mpr (by omega)
      rw [← hkept, ← hid]
      exact hsome hboth.1 hboth.2
  · intro hfits
    obtain ⟨hstream, hkept, habsent, hnone, hinfo, hmachine, hpos, hroom⟩ := hfits
    rw [← wireID_eq_iff hpacked.1] at hkept
    obtain ⟨info, hfree⟩ := Option.ne_none_iff_exists'.mp hinfo
    obtain ⟨i, hi⟩ := Option.ne_none_iff_exists'.mp hmachine
    obtain ⟨sinfo, -, hid, heq⟩ := receiveValue_eq s.2 hstream (hkept ▸ habsent) hfree hi
    rcases threePackedEvent_cases hpacked with hneg | ⟨d, hd, hevent, e, he, hsilent⟩
    · omega
    · have hsome : (madAttrEvent env (s.1.registered p v info sinfo i) p (.slot i) e).isSome :=
        (madAttrEvent_registered_isSome env hstream hsilent).mpr fun hinv hj => by
          rw [hid, hkept]
          have hd' := (joins_iff hd he).mp ⟨hinv, hj⟩
          exact hroom (by omega)
      obtain ⟨⟨u, r⟩, hu⟩ := Option.isSome_iff_exists.mp hsome
      obtain ⟨⟨l, hl, hcalls⟩, hothers, hregistered⟩ := registered_spec hstream hu
      refine ⟨(u, some (.slot i)), .slot i, e, l, ?_, hl, hcalls, ?_, fun x hx => ?_⟩
      · rw [heq, hevent, deliver_eq he, hu]
        rfl
      · rw [MeantFor, if_neg hstream]
        refine ⟨i, rfl, hregistered.mpr (hid.trans hkept), ?_⟩
        rw [if_neg fun ⟨j, hj⟩ => hnone j hj]
        exact used_of_firstUnused hi
      · rw [hothers x hx]

/-! ### Frames -/

/-- The value is delivered; a LeaveAll comes to an end. -/
def ItemDelivered (env : Env n) (p : Fin n) (s : State n × Option MachineRef) : RxItem → Prop
  | .leaveAll ty => (receiveItem env p s (.leaveAll ty)).isSome
  | .value v => Delivered env p s v

def ItemFits (env : Env n) (p : Fin n) (s : State n × Option MachineRef) : RxItem → Prop
  | .leaveAll _ => True
  | .value v => Fits env p s.1 v

theorem deliver_ptr {c : ℤ} {s : State n × Option MachineRef} (h : deliver env p t ptr c = some s) :
    s.2 = ptr := by
  rcases hptr : ptr with _ | ref
  · simp [deliver, hptr] at h
  · rcases he : mrpEventOfInt c with _ | e
    · simp [deliver, hptr, he] at h
    · rw [hptr, deliver_eq he, Option.map_eq_some_iff] at h
      obtain ⟨u, -, rfl⟩ := h
      rfl

/-- The pointer never gets to `domain_attr_recv`. -/
theorem receiveItem_ptr {s s' : State n × Option MachineRef} {item : RxItem}
    (hptr : s.2 ≠ some .domainAttrRecv) (h : receiveItem env p s item = some s') :
    s'.2 ≠ some .domainAttrRecv := by
  rcases item with ty | v
  · rw [receiveItem, Option.map_eq_some_iff] at h
    obtain ⟨u, -, rfl⟩ := h
    exact hptr
  · rw [receiveItem] at h
    by_cases hstream : v.attrType.IsStream
    · obtain ⟨habsent, info, i, hfree, hi⟩ := receiveValue_cases hstream h
      obtain ⟨sinfo, -, -, heq⟩ := receiveValue_eq s.2 hstream habsent hfree hi
      rw [deliver_ptr (heq ▸ h)]
      simp
    · rw [receiveValue, if_pos (not_not.mp hstream)] at h
      rw [deliver_ptr h]
      exact hptr

/-- The values of a frame, one after another, are delivered if and only if each of them fits when
its turn comes. -/
theorem values_delivered_iff (env : Env n) (p : Fin n) (t : State n) (rxframe : Mem) (len : ℕ) :
    Runs.AtEach (receiveItem env p) (ItemDelivered env p) (t, none)
        (rxItems env.charSigned rxframe len) ↔
      Runs.AtEach (receiveItem env p) (ItemFits env p) (t, none)
        (rxItems env.charSigned rxframe len) := by
  refine Runs.atEach_congr receiveItem_ptr (fun item hitem s hptr => ?_)
    (Option.some_ne_none _).symm
  have hpacked := rxItems_packed rxframe len item hitem
  rcases item with ty | v
  · exact iff_of_true (receiveItem_leaveAll env p s ty) trivial
  · exact delivered_iff hptr hpacked

/-- A frame with one Domain: class 6, priority 3, VID 2, and the event New. -/
def domainFrame : Mem := fun a =>
  [0, 4, 4, 0, 9, 0, 1, 6, 3, 0, 2, 0, 0, 0, 0, 0].getD a 0

/-- It has one value, which is not delivered: there is no machine yet that the pointer points
to. -/
theorem domain_not_delivered :
    ¬ Runs.AtEach (receiveItem ⟨true, fun _ _ => false⟩ 0)
      (ItemDelivered ⟨true, fun _ _ => false⟩ 0) (State.idle 1, none)
        (rxItems true domainFrame 16) := by
  have hitems : rxItems true domainFrame 16 = [.value (rxValue true domainFrame .domainVector 4 5 0)] := by
    rfl
  rw [hitems]
  rintro ⟨hdel, -⟩
  exact not_delivered_domain rfl (Option.some_ne_none _).symm hdel

end Msrp
