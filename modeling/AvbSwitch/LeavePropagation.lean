/-
Which declarations a leave withdraws.

`msrp_mad_leave_propagation` sends `MRP_EVENT_LV` to the first declaration of the stream on
every port, whatever its type, the machine's own port included.  `Withdrawn` says which
declarations a leave is meant for, and `leavePropagation_exact_iff` when the two are the
same: the first declaration is the only one meant on its port, and where there is none,
none is meant.
-/
import AvbSwitch.MsrpFrames

namespace Msrp

variable {n : ℕ} {env : Env n} {t t' : State n} {p q : Fin n} {m : MadMachine} {i : Fin 10}

/-- The declarations that a leave of the machine `m` on port `p` is meant for: for a Talker,
the Talker declarations on the other ports and the Listener declaration on `p`; for a
Listener, the Listener declarations on the other ports. -/
def Withdrawn (t : State n) (p : Fin n) (m : MadMachine) (id : UInt32 × UInt32) (q : Fin n)
    (x : MachineRef) : Prop :=
  (t.machine q x).attrDir = .dec ∧ (t.machine q x).streamID = id ∧
    ((m.attributeType.IsTalker ∧ ((q ≠ p ∧ (t.machine q x).attributeType.IsTalker) ∨
        (q = p ∧ (t.machine q x).attributeType = .listener))) ∨
      (m.attributeType = .listener ∧ q ≠ p ∧ (t.machine q x).attributeType = .listener))

/-- `MRP_EVENT_LV` goes once to every declaration that the leave is meant for, and every other
machine keeps its applicant state. -/
def LeaveExact (env : Env n) (t : State n) (p : Fin n) (m : MadMachine) (id : UInt32 × UInt32) :
    Prop :=
  ∃ t', msrpMadLeavePropagation env t p m = some t' ∧
    (∃ l, t'.log = t.log ++ l ∧ l.Nodup ∧
      ∀ r, r ∈ l ↔ ∃ q x, Withdrawn t p m id q x ∧ r = .madAttrEvent q x .lv) ∧
    ∀ q x, ¬ Withdrawn t p m id q x → (t'.machine q x).appState = (t.machine q x).appState

/-- On every port, the first declaration of the stream is the only one meant, and if there is
no declaration of the stream none is meant. -/
def LeaveHits (t : State n) (p : Fin n) (m : MadMachine) (id : UInt32 × UInt32) : Prop :=
  ∀ q x, Withdrawn t p m id q x ↔ ∃ i, findMatchingDecAttributeByStreamInfo t id q = some i ∧
    x = .slot i

/-- The ports in the order in which a leave comes to them. -/
def leaveOrder (p : Fin n) : List (Fin n) := p :: (List.finRange n).filter (· ≠ p)

theorem mem_leaveOrder : q ∈ leaveOrder p := by
  rw [leaveOrder, List.mem_cons, List.mem_filter]
  by_cases hq : q = p
  · exact Or.inl hq
  · exact Or.inr ⟨List.mem_finRange q, by simpa using hq⟩

theorem leaveOrder_nodup : (leaveOrder p).Nodup := by
  rw [leaveOrder, List.nodup_cons]
  exact ⟨by simp, (List.nodup_finRange n).filter _⟩

theorem mem_leaveRecords {id : UInt32 × UInt32} {r : Record n} :
    r ∈ (leaveOrder p).filterMap (leaveRecord t id) ↔
      ∃ q i, findMatchingDecAttributeByStreamInfo t id q = some i ∧
        r = .madAttrEvent q (.slot i) .lv := by
  simp only [List.mem_filterMap, leaveRecord, Option.map_eq_some_iff, mem_leaveOrder, true_and]
  exact exists_congr fun q => exists_congr fun i => and_congr_right fun _ => eq_comm

theorem leaveRecords_nodup {id : UInt32 × UInt32} :
    ((leaveOrder p).filterMap (leaveRecord t id)).Nodup := by
  refine List.Nodup.filterMap (fun q q' r hq hq' => ?_) leaveOrder_nodup
  simp only [leaveRecord, Option.mem_def, Option.map_eq_some_iff] at hq hq'
  obtain ⟨i, -, hi⟩ := hq
  obtain ⟨j, -, hj⟩ := hq'
  have heq := hi.trans hj.symm
  simp only [Record.madAttrEvent.injEq] at heq
  exact heq.1

/-- The propagation of a stream's leave, as a run over the ports. -/
theorem msrpMadLeavePropagation_run (env : Env n) (hinfo : m.attributeInfo = some i)
    (htype : m.attributeType.IsStream) :
    ∃ t', msrpMadLeavePropagation env t p m = some t' ∧ SameCore t t' ∧ Quiet t t' ∧
      t'.log = t.log ++
        (leaveOrder p).filterMap (leaveRecord t (t.streamInfoVars i).streamID) ∧
      ∀ r x, .madAttrEvent r x .lv ∉
          (leaveOrder p).filterMap (leaveRecord t (t.streamInfoVars i).streamID) →
        t'.machine r x = t.machine r x := by
  obtain ⟨t', ht, hspec⟩ := leavePorts_spec env (t.streamInfoVars i).streamID (leaveOrder p) t
  refine ⟨t', ?_, hspec⟩
  rw [msrpMadLeavePropagation, if_neg htype, hinfo]
  exact ht

theorem LeaveExact.hits (hinfo : m.attributeInfo = some i) (htype : m.attributeType.IsStream)
    (h : LeaveExact env t p m (t.streamInfoVars i).streamID) :
    LeaveHits t p m (t.streamInfoVars i).streamID := by
  obtain ⟨u, hu, -, -, hlog, -⟩ := msrpMadLeavePropagation_run env (t := t) (p := p)
    hinfo htype
  obtain ⟨t', ht, ⟨l, hl, -, hmem⟩, -⟩ := h
  rw [hu, Option.some_inj] at ht
  -- the two accounts of the log are the same
  have hrecords : l = (leaveOrder p).filterMap (leaveRecord t (t.streamInfoVars i).streamID) := by
    rw [← ht, hlog] at hl
    exact (List.append_cancel_left hl).symm
  rw [hrecords] at hmem
  intro q x
  constructor
  · intro hw
    obtain ⟨q', j, hj, heq⟩ := mem_leaveRecords.mp ((hmem _).mpr ⟨q, x, hw, rfl⟩)
    simp only [Record.madAttrEvent.injEq, and_true] at heq
    exact ⟨j, heq.1 ▸ hj, heq.2⟩
  · rintro ⟨j, hj, rfl⟩
    obtain ⟨q', x, hw, heq⟩ := (hmem _).mp (mem_leaveRecords.mpr ⟨q, j, hj, rfl⟩)
    simp only [Record.madAttrEvent.injEq, and_true] at heq
    rw [heq.1, heq.2]
    exact hw

theorem LeaveHits.exact (hinfo : m.attributeInfo = some i) (htype : m.attributeType.IsStream)
    (h : LeaveHits t p m (t.streamInfoVars i).streamID) :
    LeaveExact env t p m (t.streamInfoVars i).streamID := by
  obtain ⟨t', ht, -, -, hlog, hsame⟩ := msrpMadLeavePropagation_run env (t := t) (p := p)
    hinfo htype
  refine ⟨t', ht, ⟨_, hlog, leaveRecords_nodup, fun r => ?_⟩, fun q x hw => ?_⟩
  · rw [mem_leaveRecords]
    constructor
    · rintro ⟨q, j, hj, rfl⟩
      exact ⟨q, .slot j, (h q (.slot j)).mpr ⟨j, hj, rfl⟩, rfl⟩
    · rintro ⟨q, x, hw, rfl⟩
      obtain ⟨j, hj, rfl⟩ := (h q x).mp hw
      exact ⟨q, j, hj, rfl⟩
  · rw [hsame q x fun hmem => hw ?_]
    obtain ⟨q', j, hj, heq⟩ := mem_leaveRecords.mp hmem
    simp only [Record.madAttrEvent.injEq, and_true] at heq
    exact (h q x).mpr ⟨j, heq.1 ▸ hj, heq.2⟩

/-- A leave of a stream's machine withdraws exactly the declarations that it is meant for, if
and only if on every port these are the first declaration of the stream. -/
theorem leavePropagation_exact_iff (hinfo : m.attributeInfo = some i)
    (htype : m.attributeType.IsStream) :
    LeaveExact env t p m (t.streamInfoVars i).streamID ↔
      LeaveHits t p m (t.streamInfoVars i).streamID :=
  ⟨LeaveExact.hits hinfo htype, LeaveHits.exact hinfo htype⟩

/-- A Listener leaves on port 0 and is declared on port 1: this declaration is withdrawn, and
nothing else. -/
theorem leavePropagation_exact_listener :
    let t := (State.idle 2).setMachine 1 (.slot 3) (.ofStream .listener .dec)
    LeaveExact ⟨true, fun _ _ => false⟩ t 0 (.ofStream .listener .reg) (0, 0) := by
  intro t
  refine (leavePropagation_exact_iff (i := 0) rfl (by decide)).mpr fun q x => ?_
  have hfirst : ∀ q, findMatchingDecAttributeByStreamInfo t (0, 0) q =
      if q = 1 then some 3 else none := by decide
  have hmachine : t.machine q x = if q = 1 ∧ x = .slot 3 then .ofStream .listener .dec else .zero :=
    State.setMachine_machine
  show Withdrawn t 0 (.ofStream .listener .reg) (0, 0) q x ↔
    ∃ i, findMatchingDecAttributeByStreamInfo t (0, 0) q = some i ∧ x = .slot i
  rw [hfirst, Withdrawn, hmachine]
  by_cases hq : q = 1
  · by_cases hx : x = .slot 3
    · simp [hq, hx, MadMachine.ofStream, MadMachine.zero]
    · simp [hq, hx, MadMachine.zero]
  · simp [hq, MadMachine.zero]

/-- A Listener leaves on port 0; port 1 declares the stream's Talker in front of its Listener.
The Talker declaration is withdrawn. -/
theorem leavePropagation_withdraws_talker :
    let t := ((State.idle 2).setMachine 1 (.slot 0) (.ofStream .talkerAdvertise .dec)).setMachine 1
      (.slot 1) (.ofStream .listener .dec)
    ¬ LeaveExact ⟨true, fun _ _ => false⟩ t 0 (.ofStream .listener .reg) (0, 0) := by
  intro t hexact
  have hhits := LeaveExact.hits (i := 0) rfl (by decide) hexact
  have hfirst : findMatchingDecAttributeByStreamInfo t (0, 0) 1 = some 0 := by decide
  have hw := (hhits 1 (.slot 0)).mpr ⟨0, hfirst, rfl⟩
  revert hw
  simp only [Withdrawn, AttributeType.IsTalker]
  decide

end Msrp
