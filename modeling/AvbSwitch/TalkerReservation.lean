/-
A Talker's reservation and its registrar.

A New or Join indication of a registrar makes the reservation of its stream, port and type
unless it exists, and a Leave indication releases it.  The registrar table attaches the
indications to the transitions out of and into `MT`, but for one: in row `IN` the entry for
`MRP_EVENT_R_MT` leads to `MT` without a Leave indication.  `talkerReservation_iff` says
that this transition is the only way in which reservation and registrar part.
-/
import AvbSwitch.MsrpFrames

namespace Msrp

variable {n : ℕ} {env : Env n} {t t' : State n} {p : Fin n} {ref : MachineRef} {m : MadMachine}
  {i : Fin 10} {j k : Fin 30} {id : UInt32 × UInt32} {ty : AttributeType} {r : ℤ}

/-! ### Reservations -/

/-- A used entry of the table has this key. -/
def ReservedBy (t : State n) (id : UInt32 × UInt32) (p : Fin n) (ty : AttributeType) (j : Fin 30) :
    Prop :=
  (t.reservations j).used = true ∧ (t.reservations j).id = id ∧
    (t.reservations j).declType = UInt32.ofInt ty.index ∧ (t.reservations j).pPort = some p

/-- There is a reservation with this key. -/
def Reserved (t : State n) (id : UInt32 × UInt32) (p : Fin n) (ty : AttributeType) : Prop :=
  ∃ j, ReservedBy t id p ty j

theorem reservedBy_congr (h : t'.reservations = t.reservations) :
    ReservedBy t' id p ty j ↔ ReservedBy t id p ty j := by
  rw [ReservedBy, ReservedBy, h]

theorem reservedBy_of_find (h : msrpFindReservationByDeclaration t id p ty.index = some j) :
    ReservedBy t id p ty j := by
  have hj := List.find?_some h
  simpa [ReservedBy] using hj

theorem not_reserved_of_find (h : msrpFindReservationByDeclaration t id p ty.index = none) :
    ¬ Reserved t id p ty := by
  rintro ⟨j, hj⟩
  have hnone := List.find?_eq_none.mp h j (List.mem_finRange j)
  exact hnone (by simpa [ReservedBy] using hj)

@[simp] theorem State.setReservation_self {e : Reservation n} :
    (t.setReservation j e).reservations j = e := by
  simp only [State.setReservation, Function.update_self]

@[simp] theorem State.setReservation_of_ne {e : Reservation n} (h : k ≠ j) :
    (t.setReservation j e).reservations k = t.reservations k := by
  simp only [State.setReservation, Function.update_of_ne h]

/-- The entry that is made for a stream type has the key it is made for. -/
theorem madeReservation_key {info : StreamInfo} {four : ℤ} (hty : ty.IsStream) :
    let e := madeReservation info p ty four
    e.used = true ∧ e.id = info.streamID ∧ e.declType = UInt32.ofInt ty.index ∧
      e.pPort = some p := by
  cases ty with
  | domainVector => exact absurd rfl hty
  | _ => exact ⟨rfl, rfl, rfl, rfl⟩

/-- The key has one entry at most, and while it has none there is an unused entry. -/
structure ReservationRoom (t : State n) (id : UInt32 × UInt32) (p : Fin n) (ty : AttributeType) :
    Prop where
  unique : ∀ j k, ReservedBy t id p ty j → ReservedBy t id p ty k → j = k
  room : ¬ Reserved t id p ty → ∃ j, (t.reservations j).used = false

theorem ReservationRoom.congr (hroom : ReservationRoom t id p ty)
    (h : t'.reservations = t.reservations) : ReservationRoom t' id p ty where
  unique j k hj hk := hroom.unique j k ((reservedBy_congr h).mp hj) ((reservedBy_congr h).mp hk)
  room hnone := by
    rw [h]
    exact hroom.room fun ⟨j, hj⟩ => hnone ⟨j, (reservedBy_congr h).mpr hj⟩

/-- After a join indication of a stream's machine it has its reservation. -/
theorem msrpMadJoinInd_reserves (hroom : ReservationRoom t id p ty) (hstream : ty.IsStream)
    (hty : m.attributeType = ty) (hinfo : m.attributeInfo = some i)
    (hid : (t.streamInfoVars i).streamID = id) (h : msrpMadJoinInd t p m = some (t', r)) :
    Reserved t' id p ty ∧ ReservationRoom t' id p ty := by
  subst hid hty
  rcases msrpMadJoinInd_cases h with ⟨hd, -⟩ | ⟨-, hnone, -⟩ | ⟨i', -, hi', -, hcase⟩
  · exact absurd hd hstream
  · rw [hinfo] at hnone
    simp at hnone
  · rw [hinfo, Option.some_inj] at hi'
    subst hi'
    rcases hcase with ⟨rfl, j, hj⟩ | ⟨hnone, j, hj, rfl⟩
    · exact ⟨⟨j, reservedBy_of_find hj⟩, hroom⟩
    · -- a new entry in the place of an unused one
      have hnot := not_reserved_of_find hnone
      have hkey : ∀ k, ReservedBy (t.setReservation j (madeReservation (t.streamInfoVars i) p
          m.attributeType m.fourVectorParameter)) (t.streamInfoVars i).streamID p m.attributeType k ↔
          k = j := by
        intro k
        by_cases hk : k = j
        · subst hk
          simp only [ReservedBy, State.setReservation_self, iff_true]
          exact madeReservation_key hstream
        · rw [ReservedBy, State.setReservation_of_ne hk]
          exact ⟨fun hk' => absurd ⟨k, hk'⟩ hnot, fun heq => absurd heq hk⟩
      have hreserved := (hkey j).mpr rfl
      exact ⟨⟨j, hreserved⟩, fun a b ha hb => ((hkey a).mp ha).trans ((hkey b).mp hb).symm,
        fun hno => absurd ⟨j, hreserved⟩ hno⟩

/-- After a leave indication of a Talker's machine there is no reservation for it. -/
theorem msrpMadLeaveIndication_releases (hroom : ReservationRoom t id p ty) (htalker : ty.IsTalker)
    (hty : m.attributeType = ty) (hinfo : m.attributeInfo = some i)
    (hid : (t.streamInfoVars i).streamID = id) (h : msrpMadLeaveIndication t p m = some t') :
    ¬ Reserved t' id p ty ∧ ReservationRoom t' id p ty := by
  have hstream : m.attributeType.IsStream := by
    rw [hty]
    rcases htalker with rfl | rfl <;> decide
  have hsub : leaveSubType m = ty.index := by
    rw [leaveSubType, hty, if_neg]
    rcases htalker with rfl | rfl <;> decide
  rw [msrpMadLeaveIndication, if_neg hstream, hinfo] at h
  simp only [hid, hsub] at h
  rcases hfind : msrpFindReservationByDeclaration t id p ty.index with _ | j
  · simp only [hfind, Option.some_inj] at h
    subst h
    exact ⟨not_reserved_of_find hfind, hroom⟩
  · simp only [hfind, Option.some_inj] at h
    subst h
    have hj := reservedBy_of_find hfind
    have hnone : ¬ Reserved (t.setReservation j { t.reservations j with used := false }) id p ty := by
      rintro ⟨k, hk⟩
      by_cases hkj : k = j
      · subst hkj
        rw [ReservedBy, State.setReservation_self] at hk
        exact absurd hk.1 Bool.false_ne_true
      · rw [ReservedBy, State.setReservation_of_ne hkj] at hk
        exact hkj (hroom.unique k j hk hj)
    exact ⟨hnone, fun a _ ha _ => absurd ⟨a, ha⟩ hnone, fun _ => ⟨j, by simp⟩⟩

/-! ### The registrar table -/

/-- An entry with a join indication does not lead to `MT`, one with a leave indication does,
and one without does not leave or enter `MT`, except for `MRP_EVENT_R_MT` in `IN`. -/
theorem registrarEntry_indications : ∀ (s : RegistrarState) (e : MrpEvent),
    (registrarEntry s e).state ≠ .invalid →
      (IsJoin (registrarEntry s e).action → (registrarEntry s e).state ≠ .MT ∧
        ¬ (s = .IN ∧ e = .rMt)) ∧
      (IsLeave (registrarEntry s e).action → (registrarEntry s e).state = .MT ∧
        ¬ (s = .IN ∧ e = .rMt)) ∧
      (¬ IsJoin (registrarEntry s e).action → ¬ IsLeave (registrarEntry s e).action →
        if s = .IN ∧ e = .rMt then (registrarEntry s e).state = .MT
        else ((registrarEntry s e).state = .MT ↔ s = .MT)) := by
  decide +kernel

theorem registrarEntry_in_rMt : (registrarEntry .IN .rMt).state ≠ .invalid := by decide

/-! ### Runs of one machine -/

/-- An event passed to the machine `ref` of port `p`. -/
def machineEvent (env : Env n) (p : Fin n) (ref : MachineRef) (t : State n) (e : MrpEvent) :
    Option (State n) :=
  (madAttrEvent env t p ref e).map Prod.fst

/-- A reservation for the machine exists exactly while its registrar is not in `MT`. -/
def ReservedIffRegistered (p : Fin n) (ref : MachineRef) (id : UInt32 × UInt32)
    (ty : AttributeType) (t : State n) : Prop :=
  Reserved t id p ty ↔ (t.machine p ref).regState ≠ .MT

/-- The event is `MRP_EVENT_R_MT` and comes in state `IN`. -/
def EmptyWhileIn (p : Fin n) (ref : MachineRef) (t : State n) (e : MrpEvent) : Prop :=
  (t.machine p ref).regState = .IN ∧ e = .rMt

/-- A registration of a Talker's stream, with room for its reservation. -/
structure TalkerRegistration (p : Fin n) (ref : MachineRef) (i : Fin 10) (id : UInt32 × UInt32)
    (ty : AttributeType) (t : State n) : Prop where
  reg : (t.machine p ref).attrDir = .reg
  type : (t.machine p ref).attributeType = ty
  info : (t.machine p ref).attributeInfo = some i
  streamID : (t.streamInfoVars i).streamID = id
  reservation : ReservationRoom t id p ty

theorem IsTalker.isStream (h : ty.IsTalker) : ty.IsStream := by
  rcases h with rfl | rfl <;> decide

/-- One event: the registration stays one, and reservation and registrar stay together unless
it is `MRP_EVENT_R_MT` in `IN`. -/
theorem machineEvent_step {e : MrpEvent} (htalker : ty.IsTalker)
    (hk : TalkerRegistration p ref i id ty t) (h : machineEvent env p ref t e = some t') :
    TalkerRegistration p ref i id ty t' ∧ (ReservedIffRegistered p ref id ty t →
      (ReservedIffRegistered p ref id ty t' ↔ ¬ EmptyWhileIn p ref t e)) := by
  rw [machineEvent, Option.map_eq_some_iff] at h
  obtain ⟨⟨u, r⟩, hev, rfl⟩ := h
  have hstream : (t.machine p ref).attributeType.IsStream := hk.type ▸ IsTalker.isStream htalker
  obtain ⟨hstreams, ⟨s, hs⟩, hjoin, hleave, hnone⟩ := madAttrEvent_stream hk.reg hstream hk.info hev
  set entry := registrarEntry (t.machine p ref).regState e with hentry
  have htable := registrarEntry_indications (t.machine p ref).regState e
  rw [← hentry] at htable
  have hkeep : ReservationRoom u id p ty → TalkerRegistration p ref i id ty u := by
    refine fun hroom => ⟨?_, ?_, ?_, by rw [hstreams, hk.streamID], hroom⟩
    all_goals rw [hs]
    · exact hk.reg
    · exact hk.type
    · exact hk.info
  have hregState : (u.machine p ref).regState =
      if entry.state = .invalid then (t.machine p ref).regState else entry.state := by
    rw [hs]
    rfl
  show TalkerRegistration p ref i id ty u ∧ _
  rw [ReservedIffRegistered, ReservedIffRegistered, EmptyWhileIn, hregState]
  by_cases hinv : entry.state = .invalid
  · -- no transition
    have hres := hnone fun hne => absurd hinv hne
    have hsame : Reserved u id p ty ↔ Reserved t id p ty :=
      exists_congr fun j => reservedBy_congr hres
    refine ⟨hkeep (hk.reservation.congr hres), fun hI => ?_⟩
    rw [if_pos hinv, hsame]
    refine iff_of_true hI ?_
    rintro ⟨hin, rfl⟩
    rw [hentry, hin] at hinv
    exact registrarEntry_in_rMt hinv
  · obtain ⟨htj, htl, htn⟩ := htable hinv
    rw [if_neg hinv]
    by_cases hj : IsJoin entry.action
    · obtain ⟨w, hw, hres⟩ := hjoin hinv hj
      have hroom : ReservationRoom (t.record (.madAttrEvent p ref e)) id p ty := hk.reservation.congr rfl
      obtain ⟨hreserved, hroom'⟩ := msrpMadJoinInd_reserves hroom (IsTalker.isStream htalker) hk.type
        hk.info hk.streamID hw
      obtain ⟨j, hj'⟩ := hreserved
      refine ⟨hkeep (hroom'.congr hres), fun _ => ?_⟩
      exact iff_of_true (iff_of_true ⟨j, (reservedBy_congr hres).mpr hj'⟩ (htj hj).1) (htj hj).2
    · by_cases hl : IsLeave entry.action
      · obtain ⟨w, hw, hres⟩ := hleave hinv hl
        have hroom : ReservationRoom (t.record (.madAttrEvent p ref e)) id p ty :=
          hk.reservation.congr rfl
        obtain ⟨hreleased, hroom'⟩ := msrpMadLeaveIndication_releases hroom htalker hk.type hk.info
          hk.streamID hw
        refine ⟨hkeep (hroom'.congr hres), fun _ => ?_⟩
        refine iff_of_true (iff_of_false ?_ (not_not.mpr (htl hl).1)) (htl hl).2
        exact fun ⟨j, hj'⟩ => hreleased ⟨j, (reservedBy_congr hres).mp hj'⟩
      · -- no indication
        have hres := hnone fun _ => ⟨hj, hl⟩
        have hsame : Reserved u id p ty ↔ Reserved t id p ty :=
          exists_congr fun j => reservedBy_congr hres
        refine ⟨hkeep (hk.reservation.congr hres), fun hI => ?_⟩
        rw [hsame, hI]
        have hn := htn hj hl
        by_cases hempty : (t.machine p ref).regState = .IN ∧ e = .rMt
        · rw [if_pos hempty] at hn
          rw [hempty.1, hn]
          simp [hempty.2]
        · rw [if_neg hempty] at hn
          exact iff_of_true (not_congr hn.symm) hempty

/-- From `MT` without a reservation, in a table that is not full: a reservation exists exactly
while the registrar is registered, all along a sequence of events, if and only if none of
them is `MRP_EVENT_R_MT` in state `IN`. -/
theorem talkerReservation_iff (env : Env n) (p : Fin n) (ref : MachineRef)
    (hreg : (t.machine p ref).attrDir = .reg)
    (htalker : (t.machine p ref).attributeType.IsTalker)
    (hinfo : (t.machine p ref).attributeInfo = some i)
    (hmt : (t.machine p ref).regState = .MT)
    (hnone : ¬ Reserved t (t.streamInfoVars i).streamID p (t.machine p ref).attributeType)
    (hroom : ∃ j, (t.reservations j).used = false) (es : List MrpEvent) :
    Runs.Throughout (machineEvent env p ref) (ReservedIffRegistered p ref
        (t.streamInfoVars i).streamID (t.machine p ref).attributeType) t es ↔
      Runs.EachStep (machineEvent env p ref) (fun t e => ¬ EmptyWhileIn p ref t e) t es := by
  have hk : TalkerRegistration p ref i (t.streamInfoVars i).streamID
      (t.machine p ref).attributeType t :=
    ⟨hreg, rfl, hinfo, rfl, fun j _ hj _ => absurd ⟨j, hj⟩ hnone, fun _ => hroom⟩
  exact Runs.throughout_iff_eachStep (fun hk h => (machineEvent_step htalker hk h).1)
    (fun hk hI h => (machineEvent_step htalker hk h).2 hI) hk
    (iff_of_false hnone (not_not.mpr hmt))

/-- A Talker in `MT` on the only port, with no reservations. -/
def newTalker : State 1 :=
  (State.idle 1).setMachine ⟨0, Nat.one_pos⟩ .first
    ((MadMachine.ofStream .talkerAdvertise .reg).withRegState .MT)

theorem newTalker_not_reserved : ¬ Reserved newTalker (0, 0) 0 .talkerAdvertise := by
  rintro ⟨j, hj, -⟩
  exact absurd hj Bool.false_ne_true

/-- The Talker is registered: its reservation is made. -/
theorem talkerReservation_new :
    Runs.Throughout (machineEvent ⟨true, fun _ _ => false⟩ 0 (.slot 0))
      (ReservedIffRegistered 0 (.slot 0) (0, 0) .talkerAdvertise) newTalker [.new] := by
  have h := (talkerReservation_iff ⟨true, fun _ _ => false⟩ 0 (.slot 0) (t := newTalker) (i := 0)
    rfl (by decide) rfl rfl newTalker_not_reserved ⟨0, rfl⟩ [.new]).mpr
  exact h fun t' _ => ⟨fun hempty => absurd hempty.2 (by decide), trivial⟩

/-- The Talker is registered and `MRP_EVENT_R_MT` follows: its registrar is in `MT` again and
its reservation is still there. -/
theorem talkerReservation_outlives :
    ¬ Runs.Throughout (machineEvent ⟨true, fun _ _ => false⟩ 0 (.slot 0))
      (ReservedIffRegistered 0 (.slot 0) (0, 0) .talkerAdvertise) newTalker [.new, .rMt] := by
  intro h
  set run := Runs.run (machineEvent ⟨true, fun _ _ => false⟩ 0 (.slot 0)) newTalker [.new, .rMt]
    with hrun
  have hempty : run.map (fun t => (t.machine 0 (.slot 0)).regState) = some .MT := by decide +kernel
  have hused : run.map (fun t => (t.reservations 0)) = some (madeReservation .zero 0
      .talkerAdvertise 0) := by decide +kernel
  obtain ⟨t, ht, hmt⟩ := Option.map_eq_some_iff.mp hempty
  rw [ht, Option.map_some, Option.some_inj] at hused
  have hiff := h _ t List.prefix_rfl (hrun ▸ ht)
  exact hiff.mp ⟨0, by rw [ReservedBy, hused]; exact ⟨rfl, rfl, rfl, rfl⟩⟩ hmt

end Msrp
