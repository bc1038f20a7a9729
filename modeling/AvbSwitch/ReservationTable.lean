/-
The reservation table under joins and leaves.

`msrp_mad_join_ind` looks for an entry with its key before it makes one, and
`msrp_mad_leave_indication` looks for the entry that it releases.  The key of the first is
StreamID, port and type of the machine; the second takes the four-packed event of a Listener
for the type.

* `reservations_unique` — along every sequence of joins and leaves the keys stay unique, and a
  join leaves every entry in use alone;
* `join_leave_restores_iff` — a leave undoes the join of the same machine exactly if the machine
  is a Talker's or its four-packed event has the value of `MSRP_LISTENER`.
-/
import AvbSwitch.TalkerReservation
import AvbSwitch.SlotTable

namespace Msrp

open Slots

variable {n : ℕ} {t t' : State n} {p : Fin n} {m : MadMachine} {i : Fin 10} {j k : Fin 30}
  {id : UInt32 × UInt32} {ty : AttributeType} {sub : ℤ} {r : ℤ}

/-! ### Keys -/

/-- StreamID, port and type of an entry. -/
def Reservation.key (r : Reservation n) : (UInt32 × UInt32) × Option (Fin n) × UInt32 :=
  (r.id, r.pPort, r.declType)

/-- The entries in use. -/
def usedReservations (t : State n) : Fin 30 → Option (Reservation n) :=
  contents Reservation.used t.reservations

/-- No two entries in use have the same StreamID, port and type. -/
def ReservationsUnique (t : State n) : Prop :=
  UniqueKeys Reservation.used Reservation.key t.reservations

/-- The search looks for an entry in use with a key. -/
theorem find_pred_iff : decide ((t.reservations j).used ∧ (t.reservations j).id = id ∧
      (t.reservations j).declType = UInt32.ofInt sub ∧ (t.reservations j).pPort = some p) = true ↔
    (t.reservations j).used = true ∧ (t.reservations j).key = (id, some p, UInt32.ofInt sub) := by
  rw [decide_eq_true_eq]
  constructor
  · rintro ⟨hused, hid, htype, hport⟩
    exact ⟨hused, by rw [Reservation.key, hid, htype, hport]⟩
  · rintro ⟨hused, hkey⟩
    obtain ⟨hid, hrest⟩ := Prod.mk.inj hkey
    obtain ⟨hport, htype⟩ := Prod.mk.inj hrest
    exact ⟨hused, hid, htype, hport⟩

theorem key_of_find (h : msrpFindReservationByDeclaration t id p sub = some j) :
    (t.reservations j).used = true ∧ (t.reservations j).key = (id, some p, UInt32.ofInt sub) := by
  have hj := List.find?_some h
  exact find_pred_iff.mp hj

theorem find_eq_none_iff : msrpFindReservationByDeclaration t id p sub = none ↔
    ∀ j, (t.reservations j).used = true → (t.reservations j).key ≠ (id, some p, UInt32.ofInt sub) := by
  rw [msrpFindReservationByDeclaration, List.find?_eq_none]
  constructor
  · intro h j hused hkey
    exact h j (List.mem_finRange j) (find_pred_iff.mpr ⟨hused, hkey⟩)
  · intro h j _ hj
    obtain ⟨hused, hkey⟩ := find_pred_iff.mp hj
    exact h j hused hkey

theorem find_of_not_reserved (h : ¬ Reserved t id p ty) :
    msrpFindReservationByDeclaration t id p ty.index = none := by
  rw [find_eq_none_iff]
  intro j hused hkey
  obtain ⟨hid, hrest⟩ := Prod.mk.inj hkey
  obtain ⟨hport, htype⟩ := Prod.mk.inj hrest
  exact h ⟨j, hused, hid, htype, hport⟩

theorem unused_of_free (h : msrpGetFreeReservation t = some j) : (t.reservations j).used = false := by
  have hj := List.find?_some h
  exact of_decide_eq_true hj

theorem free_of_unused (h : (t.reservations j).used = false) :
    ∃ k, msrpGetFreeReservation t = some k := by
  refine Option.isSome_iff_exists.mp (List.find?_isSome.mpr ?_)
  exact ⟨j, List.mem_finRange j, decide_eq_true h⟩

theorem madeReservation_key_eq {info : StreamInfo} {four : ℤ} (hty : ty.IsStream) :
    (madeReservation info p ty four).used = true ∧
      (madeReservation info p ty four).key = (info.streamID, some p, UInt32.ofInt ty.index) := by
  obtain ⟨hused, hid, htype, hport⟩ := @madeReservation_key n p ty info four hty
  exact ⟨hused, by rw [Reservation.key, hid, hport, htype]⟩

@[simp] theorem State.setReservation_streamInfoVars {e : Reservation n} :
    (t.setReservation j e).streamInfoVars = t.streamInfoVars := rfl

/-! ### One call -/

/-- What a join indication of a stream's machine does to the table. -/
theorem msrpMadJoinInd_table (hstream : m.attributeType.IsStream) (hinfo : m.attributeInfo = some i)
    (h : msrpMadJoinInd t p m = some (t', r)) :
    t'.reservations = t.reservations ∨
      ∃ j e, t'.reservations = Function.update t.reservations j e ∧
        (t.reservations j).used = false ∧
        ∀ k, (t.reservations k).used = true → (t.reservations k).key ≠ e.key := by
  rcases msrpMadJoinInd_cases h with ⟨hd, -, -⟩ | ⟨-, hnone, -, -⟩ | ⟨i', -, hi, -, hcase⟩
  · exact absurd hd hstream
  · exact absurd (hinfo.symm.trans hnone) (Option.some_ne_none i)
  · obtain rfl := Option.some_inj.mp (hinfo.symm.trans hi)
    rcases hcase with ⟨rfl, -⟩ | ⟨hnone, j, hj, rfl⟩
    · exact Or.inl rfl
    · refine Or.inr ⟨j, _, rfl, unused_of_free hj, fun k hk => ?_⟩
      rw [(madeReservation_key_eq hstream).2]
      exact find_eq_none_iff.mp hnone k hk

/-- The cases of a leave indication of a stream's machine. -/
theorem msrpMadLeaveIndication_cases (hstream : m.attributeType.IsStream)
    (hinfo : m.attributeInfo = some i) (h : msrpMadLeaveIndication t p m = some t') :
    (msrpFindReservationByDeclaration t (t.streamInfoVars i).streamID p (leaveSubType m) = none ∧
      t' = t) ∨
    ∃ j, msrpFindReservationByDeclaration t (t.streamInfoVars i).streamID p (leaveSubType m) =
      some j ∧ t' = t.setReservation j { t.reservations j with used := false } := by
  rw [msrpMadLeaveIndication, if_neg hstream, hinfo] at h
  dsimp only at h
  cases hfind : msrpFindReservationByDeclaration t (t.streamInfoVars i).streamID p
    (leaveSubType m) with
  | none =>
    rw [hfind] at h
    exact Or.inl ⟨rfl, (Option.some_inj.mp h).symm⟩
  | some j =>
    rw [hfind] at h
    exact Or.inr ⟨j, rfl, (Option.some_inj.mp h).symm⟩

/-! ### Sequences of calls -/

/-- A call of one of the two functions, with what `stream_info_vars` holds at that time. -/
structure TableCall (n : ℕ) where
  join : Bool
  port : Fin n
  machine : MadMachine
  streams : Fin 10 → StreamInfo

/-- The call is for a machine of a stream type with stream information. -/
def TableCall.OfStream (c : TableCall n) : Prop :=
  c.machine.attributeType.IsStream ∧ c.machine.attributeInfo ≠ none

def tableCall (t : State n) (c : TableCall n) : Option (State n) :=
  let t := { t with streamInfoVars := c.streams }
  if c.join then (msrpMadJoinInd t c.port c.machine).map Prod.fst
  else msrpMadLeaveIndication t c.port c.machine

/-- The call, if it is a join, leaves every entry in use as it is. -/
def JoinKeepsUsed (t : State n) (c : TableCall n) : Prop :=
  c.join = true → ∀ t', tableCall t c = some t' →
    ∀ j, (t.reservations j).used = true → t'.reservations j = t.reservations j

/-- A join of a stream's machine is undefined only if it has to make an entry and none is
free; a leave is always defined. -/
theorem tableCall_isSome (c : TableCall n) (hc : c.OfStream)
    (hroom : c.join = true → ∃ j, (t.reservations j).used = false) : (tableCall t c).isSome := by
  obtain ⟨hstream, hinfo⟩ := hc
  obtain ⟨i, hi⟩ := Option.ne_none_iff_exists'.mp hinfo
  rw [tableCall]
  cases hjoin : c.join with
  | true =>
    rw [if_pos rfl, Option.isSome_map, msrpMadJoinInd, if_neg hstream, hi]
    dsimp only
    cases hfind : msrpFindReservationByDeclaration { t with streamInfoVars := c.streams }
      (c.streams i).streamID c.port c.machine.attributeType.index with
    | some j => rfl
    | none =>
      obtain ⟨j, hj⟩ := hroom hjoin
      have hfree : ∃ k, msrpGetFreeReservation { t with streamInfoVars := c.streams } = some k :=
        free_of_unused (j := j) hj
      obtain ⟨k, hk⟩ := hfree
      rw [Option.isSome_map, msrpMakeReservation, hk]
      rfl
  | false =>
    rw [if_neg Bool.false_ne_true, msrpMadLeaveIndication, if_neg hstream, hi]
    dsimp only
    cases hfind : msrpFindReservationByDeclaration { t with streamInfoVars := c.streams }
      (c.streams i).streamID c.port (leaveSubType c.machine) <;> rfl

theorem tableCall_step {c : TableCall n} (hc : c.OfStream) (hunique : ReservationsUnique t)
    (h : tableCall t c = some t') :
    ReservationsUnique t' ∧ (c.join = true →
      ∀ j, (t.reservations j).used = true → t'.reservations j = t.reservations j) := by
  obtain ⟨hstream, hinfo⟩ := hc
  obtain ⟨i, hi⟩ := Option.ne_none_iff_exists'.mp hinfo
  rw [tableCall] at h
  cases hjoin : c.join with
  | true =>
    rw [hjoin, if_pos rfl] at h
    obtain ⟨⟨u, r⟩, hu, rfl⟩ := Option.map_eq_some_iff.mp h
    rcases msrpMadJoinInd_table hstream hi hu with hsame | ⟨j, e, hupdate, hfree, hfresh⟩
    · dsimp only
      rw [ReservationsUnique, hsame]
      exact ⟨hunique, fun _ _ _ => rfl⟩
    · dsimp only
      rw [ReservationsUnique, hupdate]
      exact ⟨hunique.insert hfresh, fun _ k hk => update_of_used hfree hk⟩
  | false =>
    rw [hjoin, if_neg Bool.false_ne_true] at h
    refine ⟨?_, fun hj => absurd hj Bool.false_ne_true⟩
    rcases msrpMadLeaveIndication_cases hstream hi h with ⟨-, rfl⟩ | ⟨j, -, rfl⟩
    · exact hunique
    · exact hunique.release rfl

/-- **Reservations are unique per key.**  From an empty table no sequence of joins and leaves
comes to two entries in use with the same StreamID, port and type, and each join leaves every
entry in use as it is. -/
theorem reservations_unique (hempty : ∀ j, (t.reservations j).used = false)
    (cs : List (TableCall n)) (hcs : ∀ c ∈ cs, c.OfStream) :
    Runs.Throughout tableCall ReservationsUnique t cs ∧ Runs.EachStep tableCall JoinKeepsUsed t cs := by
  have hkeep : ∀ {cs : List (TableCall n)} {t : State n}, (∀ c ∈ cs, c.OfStream) →
      ReservationsUnique t → Runs.Throughout tableCall ReservationsUnique t cs ∧
        Runs.EachStep tableCall JoinKeepsUsed t cs := by
    intro cs
    induction cs with
    | nil => exact fun _ hunique => ⟨Runs.throughout_nil.mpr hunique, trivial⟩
    | cons c cs ih =>
      intro t hcs hunique
      rw [List.forall_mem_cons] at hcs
      constructor
      · rw [Runs.throughout_cons]
        exact ⟨hunique, fun u hu => (ih hcs.2 (tableCall_step hcs.1 hunique hu).1).1⟩
      · intro u hu
        refine ⟨fun hjoin v hv => (tableCall_step hcs.1 hunique hv).2 hjoin, ?_⟩
        exact (ih hcs.2 (tableCall_step hcs.1 hunique hu).1).2
  exact hkeep hcs (UniqueKeys.of_unused hempty)

/-- A call for a machine of the stream in the first entry, which is `(0, 0)`. -/
def idleCall (join : Bool) (ty : AttributeType) : TableCall 1 :=
  ⟨join, ⟨0, Nat.one_pos⟩, MadMachine.ofStream ty .reg, fun _ => .zero⟩

/-- A Talker and a Listener join and leave. -/
theorem reservations_unique_idle :
    let calls := [idleCall true .talkerAdvertise, idleCall true .listener,
      idleCall false .talkerAdvertise, idleCall true .talkerAdvertise]
    Runs.Throughout tableCall ReservationsUnique (State.idle 1) calls ∧
      Runs.EachStep tableCall JoinKeepsUsed (State.idle 1) calls := by
  refine reservations_unique (fun _ => rfl) _ fun c hc => ?_
  simp only [List.mem_cons, List.not_mem_nil, or_false] at hc
  rcases hc with rfl | rfl | rfl | rfl <;> exact ⟨by decide, Option.some_ne_none _⟩

/-! ### A join and its leave -/

/-- The join indication of a machine and then its leave indication. -/
def joinThenLeave (t : State n) (p : Fin n) (m : MadMachine) : Option (State n) :=
  (msrpMadJoinInd t p m).bind fun r => msrpMadLeaveIndication r.1 p m

/-- The search of the leave is for the type that the join has stored. -/
theorem leaveSubType_eq_iff (hstream : m.attributeType.IsStream) :
    UInt32.ofInt (leaveSubType m) = UInt32.ofInt m.attributeType.index ↔
      m.attributeType.IsTalker ∨
        UInt32.ofInt m.fourVectorParameter = UInt32.ofNat AttributeType.listener.index := by
  rw [leaveSubType]
  cases hm : m.attributeType with
  | talkerAdvertise => exact iff_of_true rfl (Or.inl (Or.inl rfl))
  | talkerFailed => exact iff_of_true rfl (Or.inl (Or.inr rfl))
  | listener =>
    rw [if_pos rfl]
    refine (or_iff_right ?_).symm
    rintro (h | h) <;> cases h
  | domainVector => exact absurd hm hstream

/-- A join that finds no entry puts one into the first free slot. -/
theorem msrpMadJoinInd_of_none (hstream : m.attributeType.IsStream) (hinfo : m.attributeInfo = some i)
    (hfind : msrpFindReservationByDeclaration t (t.streamInfoVars i).streamID p
      m.attributeType.index = none) (hk : msrpGetFreeReservation t = some k) :
    msrpMadJoinInd t p m = some (t.setReservation k
      (madeReservation (t.streamInfoVars i) p m.attributeType m.fourVectorParameter), 1) := by
  rw [msrpMadJoinInd, if_neg hstream, hinfo]
  dsimp only
  rw [hfind]
  dsimp only
  rw [msrpMakeReservation, hk]
  rfl

/-- An entry with a new key is found by its key. -/
theorem find_setReservation_self {e : Reservation n} (hused : e.used = true)
    (hkey : e.key = (id, some p, UInt32.ofInt sub))
    (hfind : msrpFindReservationByDeclaration t id p sub = none) :
    msrpFindReservationByDeclaration (t.setReservation k e) id p sub = some k := by
  refine find_finRange_eq_some ?_ fun l hl => ?_
  · rw [find_pred_iff, State.setReservation_self]
    exact ⟨hused, hkey⟩
  · rw [find_pred_iff] at hl
    by_contra hlk
    rw [State.setReservation_of_ne hlk] at hl
    exact find_eq_none_iff.mp hfind l hl.1 hl.2

/-- A leave that does not find the entry in slot `k` leaves it there. -/
theorem leave_keeps (hstream : m.attributeType.IsStream) (hinfo : m.attributeInfo = some i)
    (hfind : msrpFindReservationByDeclaration t (t.streamInfoVars i).streamID p
      (leaveSubType m) ≠ some k) (h : msrpMadLeaveIndication t p m = some t') :
    t'.reservations k = t.reservations k := by
  rcases msrpMadLeaveIndication_cases hstream hinfo h with ⟨-, rfl⟩ | ⟨j, hj, rfl⟩
  · rfl
  · refine State.setReservation_of_ne ?_
    rintro rfl
    exact hfind hj

/-- **A leave undoes the join of the same machine.**  In a table that has a free entry and no
entry with the machine's key, the two calls leave the entries in use as they were exactly if the
machine is a Talker's or its four-packed event has the value of `MSRP_LISTENER`. -/
theorem join_leave_restores_iff (t : State n) (p : Fin n) (m : MadMachine) (i : Fin 10)
    (hfree : ∃ j, (t.reservations j).used = false) (hstream : m.attributeType.IsStream)
    (hinfo : m.attributeInfo = some i)
    (hnone : ¬ Reserved t (t.streamInfoVars i).streamID p m.attributeType) :
    (joinThenLeave t p m).map usedReservations = some (usedReservations t) ↔
      m.attributeType.IsTalker ∨
        UInt32.ofInt m.fourVectorParameter = UInt32.ofNat AttributeType.listener.index := by
  have hfind := find_of_not_reserved hnone
  obtain ⟨j, hj⟩ := hfree
  obtain ⟨k, hk⟩ := free_of_unused hj
  have hunused := unused_of_free hk
  have hjoin := msrpMadJoinInd_of_none hstream hinfo hfind hk
  set e := madeReservation (t.streamInfoVars i) p m.attributeType m.fourVectorParameter with he
  obtain ⟨hused, hkey⟩ := @madeReservation_key_eq n p m.attributeType (t.streamInfoVars i)
    m.fourVectorParameter hstream
  rw [← he] at hused hkey
  rw [← leaveSubType_eq_iff hstream, joinThenLeave, hjoin, Option.bind_some]
  constructor
  · -- an entry that is not released is one more in use
    intro h
    by_contra hne
    obtain ⟨u, hu, hsame⟩ := Option.map_eq_some_iff.mp h
    have hmissed : msrpFindReservationByDeclaration (t.setReservation k e)
        (t.streamInfoVars i).streamID p (leaveSubType m) ≠ some k := by
      intro hfound
      have hkey' := (key_of_find hfound).2
      rw [State.setReservation_self, hkey] at hkey'
      exact hne (Prod.mk.inj (Prod.mk.inj hkey').2).2.symm
    have hkept := leave_keeps hstream hinfo hmissed hu
    rw [State.setReservation_self] at hkept
    have hat := congrFun hsame k
    rw [usedReservations, usedReservations, contents_of_unused hunused,
      contents_of_used (by rw [hkept]; exact hused)] at hat
    exact Option.some_ne_none _ hat
  · -- the entry is the only one with its key
    intro heq
    have hfound := @find_setReservation_self n t p k _ _ e hused hkey hfind
    rw [msrpMadLeaveIndication, if_neg hstream, hinfo]
    dsimp only
    rw [State.setReservation_streamInfoVars, msrpFindReservationByDeclaration, heq,
      ← msrpFindReservationByDeclaration, hfound]
    refine congrArg some ?_
    exact contents_insert_release hunused rfl

theorem idle_not_reserved : ¬ Reserved (State.idle 1) (0, 0) 0 ty := by
  rintro ⟨j, hj, -⟩
  exact absurd hj Bool.false_ne_true

/-- A Talker joins the empty table and leaves it. -/
theorem join_leave_restores_talker :
    (joinThenLeave (State.idle 1) 0 (MadMachine.ofStream .talkerAdvertise .reg)).map
      usedReservations = some (usedReservations (State.idle 1)) :=
  (join_leave_restores_iff (State.idle 1) 0 (MadMachine.ofStream .talkerAdvertise .reg) 0
    ⟨0, rfl⟩ (by decide) rfl idle_not_reserved).mpr (Or.inl (Or.inl rfl))

/-- A table with the reservation of a Talker. -/
def talkerReserved : State 1 :=
  (msrpMakeReservation (State.idle 1) .zero ⟨0, Nat.one_pos⟩ .talkerAdvertise 0).getD (State.idle 1)

/-- A Listener of the same stream, whose four-packed event is 0. -/
def askingListener : MadMachine := MadMachine.ofStream .listener .reg

theorem talkerReserved_eq : talkerReserved =
    (State.idle 1).setReservation 0 (madeReservation .zero 0 .talkerAdvertise 0) := by
  rfl

theorem talkerReserved_not_reserved : ¬ Reserved talkerReserved (0, 0) 0 .listener := by
  rw [talkerReserved_eq]
  rintro ⟨j, hj, -, htype, -⟩
  by_cases h0 : j = 0
  · rw [h0, State.setReservation_self] at htype
    exact absurd htype (by decide)
  · rw [State.setReservation_of_ne h0] at hj
    exact absurd hj Bool.false_ne_true

/-- The Listener joins and leaves: the leave releases the Talker's reservation, and the
Listener's stays. -/
theorem join_leave_listener_misses :
    (∃ j, (talkerReserved.reservations j).used = false) ∧
      ¬ Reserved talkerReserved (0, 0) 0 .listener ∧
      (joinThenLeave talkerReserved 0 askingListener).map usedReservations ≠
        some (usedReservations talkerReserved) := by
  refine ⟨⟨1, by decide⟩, talkerReserved_not_reserved, fun h => ?_⟩
  obtain ⟨u, hu, hsame⟩ := Option.map_eq_some_iff.mp h
  have hreleased : (joinThenLeave talkerReserved 0 askingListener).map
      (fun t => usedReservations t 0) = some none := by
    decide +kernel
  rw [hu, Option.map_some, Option.some_inj, hsame] at hreleased
  have hheld : usedReservations talkerReserved 0 ≠ none := by decide +kernel
  exact hheld hreleased

end Msrp
