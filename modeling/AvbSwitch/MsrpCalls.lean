/-
Runs of the MSRP module, with the frames that it hands to the driver.

`Call` is what the rest of the switch does with the module: it gives it a frame that a port has
received, it ticks, or it calls `vtss_msrp_more_work` when idle.  `Sending` keeps the frames that
`mrp_pdu_ex_send` has handed over beside the state.

* `callPort_state`, `callMoreWork_state` — without the frames, this is the module's own loop;
* `nothing_sent` — while no LeaveAll is pending and every send buffer is empty, no run of calls
  hands over a frame, whatever the ports receive and however often the timers run out.

The events that make an applicant send are `MRP_EVENT_TX_LA`, `MRP_EVENT_TX_LAF` and
`MRP_EVENT_FLUSH`.  `mrp_tx` raises the first two with a LeaveAll pending only, and nothing
raises the third; and the column of the LeaveAll table that would set `leaveall` is that of
`MRP_EVENT_NEW`, which no participant is ever given.
-/
import AvbSwitch.DeliveredValues
import AvbSwitch.LeaveallTransmission
import AvbSwitch.MsrpInit

namespace Msrp

open Octets

variable {n : ℕ} {env : Env n} {t t' u : State n} {p q : Fin n} {ref : MachineRef} {e : MrpEvent}
  {r : ℤ}

/-! ### Calls -/

/-- What the module is called with. -/
inductive Call (n : ℕ)
  | receive (p : Fin n) (rxframe : Mem) (len : ℕ)
  | tick
  | moreWork

/-- The state, and the frames that the driver has been given, each with its port. -/
structure Sending (n : ℕ) where
  state : State n
  sent : List (Fin n × Mem × ℕ)

/-- One turn of the loop of `vtss_msrp_more_work`. -/
def callPort (env : Env n) (s : Sending n) (p : Fin n) : Option (Sending n) :=
  (pollLeaveTimer env (s.state.record (.poll p)) p).bind fun t =>
    (pollLeaveallTimer env t p).bind fun t =>
      let (pp, opportunity) := mrpTxOpportunity (t.ports p)
      let t := t.setPort p pp
      if opportunity then
        (mrpTransmit env t p).map fun T =>
          ⟨T.after, s.sent ++ (T.frame.map fun frame => (p, frame)).toList⟩
      else some ⟨t, s.sent⟩

/-- `vtss_msrp_more_work`. -/
def callMoreWork (env : Env n) (s : Sending n) : Option (Sending n) :=
  Runs.run (callPort env) s (List.finRange n)

/-- A call. -/
def Call.step (env : Env n) (s : Sending n) : Call n → Option (Sending n)
  | .receive p rxframe len => (vtssMsrpReceive env s.state p rxframe len).map fun t => ⟨t, s.sent⟩
  | .tick => (callMoreWork env s).map fun s => ⟨(List.finRange n).foldl tickPort s.state, s.sent⟩
  | .moreWork => callMoreWork env s

theorem callPort_state (env : Env n) (s : Sending n) (p : Fin n) :
    (callPort env s p).map Sending.state = workPort env s.state p := by
  rw [callPort, workPort, Option.map_bind]
  congr 1
  funext t
  dsimp only [Function.comp]
  rw [Option.map_bind]
  congr 1
  funext t
  dsimp only [Function.comp]
  split
  · rw [mrpTx_eq, Option.map_map]
    rfl
  · rfl

theorem callMoreWork_state (env : Env n) (s : Sending n) :
    (callMoreWork env s).map Sending.state = vtssMsrpMoreWork env s.state := by
  rw [callMoreWork, vtssMsrpMoreWork]
  generalize List.finRange n = ps
  induction ps generalizing s with
  | nil => rfl
  | cons p ps ih =>
    rw [List.foldlM_cons, Runs.run_cons, Option.map_bind, ← callPort_state]
    cases callPort env s p with
    | none => rfl
    | some s' => exact ih s'

/-! ### Events to which nothing is sent -/

/-- The events whose columns make no applicant send anything. -/
def MrpEvent.Unsent (e : MrpEvent) : Prop := e ≠ .txLa ∧ e ≠ .txLaf ∧ e ≠ .flush

instance (e : MrpEvent) : Decidable e.Unsent := inferInstanceAs (Decidable (_ ∧ _ ∧ _))

theorem applicantEntry_unsent : ∀ (s : ApplicantState) (e : MrpEvent) (registered : Bool),
    e.Unsent → sentEvent registered (applicantEntry s e).action = none ∧
      sentEvent registered ((applicantEntry s e).action ||| Action.reqTx) = none := by
  decide +kernel

theorem sentBy_of_unsent (he : e.Unsent) : sentBy t p ref e = none := by
  have hentry := fun registered => applicantEntry_unsent (t.machine p ref).appState e registered he
  rw [sentBy, applicantTrans]
  split
  · rfl
  · split
    · rfl
    · split
      · rfl
      · split
        · rw [Option.bind_some]
          split
          · rfl
          · next hAN _ =>
            obtain ⟨-, rfl, -⟩ := hAN
            exact (hentry _).2
        · rw [Option.bind_some]
          split
          · rfl
          · exact (hentry _).1

/-- `leaveall` and the send buffers are the same. -/
def Still (t t' : State n) : Prop := SameLeaveall t t' ∧ ∀ p, SameBuffer p t t'

namespace Still

theorem refl (t : State n) : Still t t := ⟨.refl t, fun _ => .refl t⟩

theorem trans (h : Still t u) (h' : Still u t') : Still t t' :=
  ⟨h.1.trans h'.1, fun p => (h.2 p).trans (h'.2 p)⟩

theorem record (t : State n) (x : Record n) : Still t (t.record x) :=
  ⟨.record t x, fun _ => .record t x⟩

theorem setPort {pp : Participant} (hleaveall : pp.leaveall = (t.ports p).leaveall)
    (hbuf : pp.sendBuf = (t.ports p).sendBuf) (hptr : pp.sendPtr = (t.ports p).sendPtr) :
    Still t (t.setPort p pp) :=
  ⟨.setPort hleaveall, fun _ => .setPort hbuf hptr⟩

theorem keepsEvent (he : e.Unsent) : KeepsEvent env Still e := by
  intro t t' q ref r h
  exact ⟨SameLeaveall.keepsEvent h, fun p => SameBuffer.of_unsent (sentBy_of_unsent he) h⟩

theorem eventFrame : EventFrame env (Still (n := n)) where
  refl := refl
  trans := trans
  machine _ _ _ _ := setPort rfl rfl rfl
  failure _ _ := setPort rfl rfl rfl
  timer t p action :=
    ⟨(@SameLeaveall.eventFrame n env).timer t p action,
      fun _ => (@SameBuffer.eventFrame n env _).timer t p action⟩
  reservations h :=
    ⟨(@SameLeaveall.eventFrame n env).reservations h,
      fun _ => (@SameBuffer.eventFrame n env _).reservations h⟩
  record t x _ := record t x
  silent he := keepsEvent ⟨by rintro rfl; exact absurd he (by decide),
    by rintro rfl; exact absurd he (by decide), by rintro rfl; exact absurd he (by decide)⟩

theorem nextToProcess (t : State n) (p : Fin n) (i : ℕ) :
    Still t (t.setPort p { t.ports p with nextToProcess := i }) := setPort rfl rfl rfl

theorem madAttrEvent (he : e.Unsent) (h : Msrp.madAttrEvent env t q ref e = some (t', r)) :
    Still t t' := eventFrame.madAttrEvent (keepsEvent he) h

theorem machineLoop (he : e.Unsent) {selected : MadMachine → Bool} {is : List (Fin 24)}
    (h : Msrp.machineLoop env q selected e is t = some t') : Still t t' :=
  eventFrame.machineLoop (keepsEvent he) nextToProcess h

theorem madEvent (he : e.Unsent) (h : Msrp.madEvent env t q e = some t') : Still t t' :=
  eventFrame.madEvent (keepsEvent he) nextToProcess h

end Still

/-! ### Participants -/

/-- An event from `MRP_EVENT_R_NEW` on is in no row of the LeaveAll table. -/
theorem leaveallEntry_late : ∀ (s : LeaveallState) (e : MrpEvent),
    MrpEvent.rNew.index ≤ e.index → (leaveallEntry s e).state = .invalid := by decide +kernel

/-- Such an event does nothing to a participant. -/
theorem madParticipantEvent_late (env : Env n) (t : State n) (p : Fin n)
    (hlate : MrpEvent.rNew.index ≤ e.index) :
    madParticipantEvent env t p e = some (t.record (.madParticipantEvent p e)) := by
  rw [madParticipantEvent]
  exact if_pos (leaveallEntry_late _ e hlate)

/-- No LeaveAll is pending, and the send buffers are empty. -/
def Unsending (t : State n) : Prop :=
  ∀ p, (t.ports p).leaveall = false ∧ mrpPduEmpty (t.ports p) = true

theorem Unsending.of_still (h : Unsending t) (hstill : Still t t') : Unsending t' := by
  intro p
  rw [mrpPduEmpty, hstill.1 p, (hstill.2 p).2]
  exact h p

/-- A transmission with nothing to send hands over nothing. -/
theorem mrpTransmit_still {T : Transmission n} (hquiet : Unsending t)
    (h : mrpTransmit env t p = some T) : T.frame = none ∧ Still t T.after := by
  obtain ⟨u, ptr, v, ptr', b, hu, -, hv, hptr', hb, rfl⟩ := mrpTransmit_cases h
  rw [madParticipantEvent_late env t p (by decide), Option.some_inj] at hu
  have hcalled : Still t u := hu ▸ Still.record t _
  have hevent : txEvent (u.ports p).leaveall ptr = .tx := by
    rw [txEvent, ((hquiet.of_still hcalled) p).1]
    rfl
  rw [hevent] at hv
  have hmachines : Still t v := hcalled.trans (Still.madEvent (by decide) hv)
  have hempty : ptr' = firstMsg := by
    have hsame := ((hquiet.of_still hmachines) p).2
    rw [mrpPduEmpty, hptr'] at hsame
    exact Option.some_inj.mp (of_decide_eq_true hsame)
  rw [hempty, mrpPduExSend, if_neg (not_not.mpr rfl), Option.some_inj] at hb
  subst hb
  refine ⟨rfl, hmachines.trans (Still.setPort rfl rfl ?_)⟩
  rw [hptr', hempty]

/-! ### Runs -/

/-- What `vtss_msrp_more_work` does before it transmits. -/
theorem pollTimers_still {v : State n} (hu : pollLeaveTimer env t p = some u)
    (hv : pollLeaveallTimer env u p = some v) : Still t v := by
  have hleave : Still t u := by
    rw [pollLeaveTimer] at hu
    split at hu
    · have hstopped : Still t (t.setPort p
          { t.ports p with leaveTimer := { (t.ports p).leaveTimer with running := false } }) :=
        Still.setPort rfl rfl rfl
      exact hstopped.trans (Still.madEvent (e := .leaveTimer) (by decide) hu)
    · exact Option.some_inj.mp hu ▸ Still.refl t
  refine hleave.trans ?_
  rw [pollLeaveallTimer] at hv
  split at hv
  · rw [madParticipantEvent_late env u p (by decide), Option.some_inj] at hv
    exact hv ▸ Still.record u _
  · exact Option.some_inj.mp hv ▸ Still.refl u

theorem mrpTxOpportunity_still (t : State n) (p : Fin n) :
    Still t (t.setPort p (mrpTxOpportunity (t.ports p)).1) := by
  rw [mrpTxOpportunity]
  split
  · split
    · exact Still.setPort rfl rfl rfl
    · exact Still.setPort rfl rfl rfl
  · split
    · exact Still.setPort rfl rfl rfl
    · exact Still.setPort rfl rfl rfl

theorem callPort_still {s s' : Sending n} (hquiet : Unsending s.state)
    (h : callPort env s p = some s') : s'.sent = s.sent ∧ Still s.state s'.state := by
  rw [callPort] at h
  obtain ⟨u, hu, h⟩ := Option.bind_eq_some_iff.mp h
  obtain ⟨v, hv, h⟩ := Option.bind_eq_some_iff.mp h
  have hpolled : Still s.state (v.setPort p (mrpTxOpportunity (v.ports p)).1) :=
    ((Still.record s.state _).trans (pollTimers_still hu hv)).trans (mrpTxOpportunity_still v p)
  dsimp only at h
  split at h
  · obtain ⟨T, hT, rfl⟩ := Option.map_eq_some_iff.mp h
    obtain ⟨hframe, hstill⟩ := mrpTransmit_still (hquiet.of_still hpolled) hT
    refine ⟨?_, hpolled.trans hstill⟩
    rw [hframe]
    exact List.append_nil s.sent
  · rw [← Option.some_inj.mp h]
    exact ⟨rfl, hpolled⟩

theorem callMoreWork_still {s s' : Sending n} (hquiet : Unsending s.state)
    (h : callMoreWork env s = some s') : s'.sent = s.sent ∧ Still s.state s'.state := by
  refine Runs.run_invariant (I := fun u => u.sent = s.sent ∧ Still s.state u.state)
    (fun {u p u'} hu hstep => ?_) ⟨rfl, Still.refl s.state⟩ h
  obtain ⟨hsent, hstill⟩ := callPort_still (hquiet.of_still hu.2) hstep
  exact ⟨hsent.trans hu.1, hu.2.trans hstill⟩

theorem tickPorts_still (ps : List (Fin n)) (t : State n) : Still t (ps.foldl tickPort t) := by
  induction ps generalizing t with
  | nil => exact Still.refl t
  | cons p ps ih =>
    have hport : Still t (tickPort t p) := by
      refine Still.trans ?_ (Still.record _ _)
      exact Still.setPort rfl rfl rfl
    exact hport.trans (ih (tickPort t p))

/-- The event that a value of a frame is passed on with is one of the first six. -/
theorem silent_of_packed {v : RxValue} {signed : Bool} (hpacked : (RxItem.value v).Packed signed)
    (he : mrpEventOfInt v.threePackedEvent = some e) : e.Silent := by
  rcases threePackedEvent_cases hpacked with hneg | ⟨d, -, hd, e', he', hsilent⟩
  · rw [mrpEventOfInt_of_neg hneg] at he
    cases he
  · rw [hd, he', Option.some_inj] at he
    exact he ▸ hsilent

theorem MrpEvent.Silent.unsent (h : e.Silent) : e.Unsent := by
  revert e
  decide

/-- What is delivered is an event for the machine that the pointer leads to. -/
theorem deliver_cases {ptr : Option MachineRef} {c : ℤ} {s' : State n × Option MachineRef}
    (h : deliver env p t ptr c = some s') : ∃ ref e r, ptr = some ref ∧ mrpEventOfInt c = some e ∧
      madAttrEvent env t p ref e = some (s'.1, r) ∧ s'.2 = some ref := by
  cases ptr with
  | none => cases h
  | some ref =>
    cases he : mrpEventOfInt c with
    | none => simp [deliver, he] at h
    | some e =>
      rw [deliver_eq he] at h
      obtain ⟨⟨u, r⟩, hu, rfl⟩ := Option.map_eq_some_iff.mp h
      exact ⟨ref, e, r, rfl, rfl, hu, rfl⟩

theorem deliver_still {ptr : Option MachineRef} {v : RxValue} {s' : State n × Option MachineRef}
    {signed : Bool} (hpacked : (RxItem.value v).Packed signed)
    (h : deliver env p t ptr v.threePackedEvent = some s') : Still t s'.1 := by
  obtain ⟨ref, e, r, -, he, hevent, -⟩ := deliver_cases h
  exact Still.madAttrEvent (silent_of_packed hpacked he).unsent hevent

theorem receiveItem_still {s s' : State n × Option MachineRef} {item : RxItem}
    (hpacked : item.Packed env.charSigned) (h : receiveItem env p s item = some s') :
    Still s.1 s'.1 := by
  rcases item with ty | v
  · obtain ⟨w, hw, rfl⟩ := Option.map_eq_some_iff.mp h
    obtain ⟨u, hu, hw⟩ := Option.bind_eq_some_iff.mp hw
    rw [madParticipantEvent_late env u p (by decide), Option.some_inj] at hw
    have hmachines : Still s.1 u := Still.machineLoop (by decide) hu
    exact hw ▸ hmachines.trans (Still.record u _)
  · by_cases hstream : v.attrType.IsStream
    · obtain ⟨habsent, info, i, hfree, hi⟩ := receiveValue_cases hstream h
      obtain ⟨sinfo, -, -, heq⟩ := receiveValue_eq s.2 hstream habsent hfree hi
      have hregistered : Still s.1 (s.1.registered p v info sinfo i) := Still.setPort rfl rfl rfl
      rw [receiveItem, heq] at h
      exact hregistered.trans (deliver_still hpacked h)
    · rw [receiveItem, receiveValue, if_pos (not_not.mp hstream)] at h
      have hdomain : Still s.1 (receiveDomain s.1 p v.firstValue) := Still.setPort rfl rfl rfl
      exact hdomain.trans (deliver_still hpacked h)

theorem vtssMsrpReceive_still {rxframe : Mem} {len : ℕ}
    (h : vtssMsrpReceive env t p rxframe len = some t') : Still t t' := by
  obtain ⟨s', hrun, rfl⟩ := Option.map_eq_some_iff.mp h
  exact Runs.run_invariant_of_forall (I := fun s => Still t s.1)
    (Q := fun item => item.Packed env.charSigned)
    (fun hpacked hstill hstep => hstill.trans (receiveItem_still hpacked hstep))
    (rxItems_packed rxframe len) (Still.refl t) hrun

theorem call_still {s s' : Sending n} {c : Call n} (hquiet : Unsending s.state)
    (h : c.step env s = some s') : s'.sent = s.sent ∧ Still s.state s'.state := by
  cases c with
  | receive p rxframe len =>
    obtain ⟨t, ht, rfl⟩ := Option.map_eq_some_iff.mp h
    exact ⟨rfl, vtssMsrpReceive_still ht⟩
  | tick =>
    obtain ⟨u, hu, rfl⟩ := Option.map_eq_some_iff.mp h
    obtain ⟨hsent, hstill⟩ := callMoreWork_still hquiet hu
    exact ⟨hsent, hstill.trans (tickPorts_still _ u.state)⟩
  | moreWork => exact callMoreWork_still hquiet h

/-- **Nothing is ever sent.**  Without a pending LeaveAll and with empty send buffers, no run of
calls hands a frame to the driver or writes into a send buffer. -/
theorem nothing_sent (env : Env n) (calls : List (Call n)) (s s' : Sending n)
    (hquiet : Unsending s.state) (hrun : Runs.run (Call.step env) s calls = some s') :
    s'.sent = s.sent ∧ Unsending s'.state ∧
      ∀ p, (s'.state.ports p).sendBuf = (s.state.ports p).sendBuf := by
  have hkept := Runs.run_invariant (I := fun u => u.sent = s.sent ∧ Still s.state u.state)
    (fun {u c u'} hu hstep => by
      obtain ⟨hsent, hstill⟩ := call_still (hquiet.of_still hu.2) hstep
      exact ⟨hsent.trans hu.1, hu.2.trans hstill⟩) ⟨rfl, Still.refl s.state⟩ hrun
  exact ⟨hkept.1, hquiet.of_still hkept.2, fun p => (hkept.2.2 p).1⟩

/-- A frame with one Talker Advertise: the stream `1:2`, and the event JoinIn. -/
def talkerFrame : Mem := fun a =>
  [0, 1, 25, 0, 30, 0, 1, 0, 0, 0, 1, 0, 0, 0, 2, 1, 0x80, 0xC2, 0, 0, 14, 0, 2, 0, 84, 0, 1, 0x60,
    0, 0, 0, 9, 36].getD a 0

theorem idle_unsending (n : ℕ) : Unsending (State.idle n) := by
  intro p
  exact ⟨rfl, rfl⟩

/-- A Talker is received and declared on the other port, whose join timer runs out. -/
theorem nothing_sent_talker :
    ∃ s', Runs.run (Call.step ⟨true, fun _ _ => false⟩) ⟨State.idle 2, []⟩
        (.receive ⟨0, Nat.two_pos⟩ talkerFrame 40 :: List.replicate 22 .tick) = some s' ∧
      s'.sent = [] := by
  have hsome : (Runs.run (Call.step ⟨true, fun _ _ => false⟩) ⟨State.idle 2, []⟩
      (.receive ⟨0, Nat.two_pos⟩ talkerFrame 40 :: List.replicate 22 .tick)).isSome = true := by
    decide +kernel
  obtain ⟨s', hs'⟩ := Option.isSome_iff_exists.mp hsome
  exact ⟨s', hs', (nothing_sent _ _ ⟨State.idle 2, []⟩ s' (idle_unsending 2) hs').1⟩

end Msrp
