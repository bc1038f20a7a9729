/-
A pending LeaveAll in `mrp_tx`.

`mad_participant_event` raises `leaveall`, and `mrp_tx` looks at it to choose the event for the
machines.  What is meant is that the PDU carries the LeaveAll in every vector header and that
the flag is cleared then (`SentOnce`).

* `leaveall_never_sentOnce` — it never is: nothing clears the flag but the initialisation, so
  that every later transmission takes the LeaveAll for pending as well;
* `leaveall_not_encoded` — from an empty buffer no vector header carries the LeaveAll, for
  `doTx` has every message created without it.
-/
import AvbSwitch.EventFrames
import AvbSwitch.FullPdu
import AvbSwitch.PduWellFormed

namespace Msrp

open Octets

variable {n : ℕ} {env : Env n} {t t' u : State n} {p q : Fin n} {ref : MachineRef} {e : MrpEvent}
  {r : ℤ} {k : ℕ}

/-! ### The transmission -/

/-- The event that `mrp_tx` raises for the machines. -/
def txEvent (leaveall : Bool) (ptr : ℕ) : MrpEvent :=
  if leaveall then (if mrpPduFull ptr then .txLaf else .txLa) else .tx

/-- What comes of a transmission: the state after it, the buffer with the messages that have
been encoded, and the frame that is handed to the driver. -/
structure Transmission (n : ℕ) where
  after : State n
  encoded : SendBuffer
  frame : Option (Mem × ℕ)

/-- `mrp_tx`, with the messages and the frame. -/
def mrpTransmit (env : Env n) (t : State n) (p : Fin n) : Option (Transmission n) :=
  (madParticipantEvent env t p .tx).bind fun t =>
    match (t.ports p).sendPtr with
    | none => none
    | some ptr =>
      (madEvent env t p (txEvent (t.ports p).leaveall ptr)).bind fun t =>
        match (t.ports p).sendPtr with
        | none => none
        | some ptr =>
          (mrpPduExSend ⟨(t.ports p).sendBuf, ptr⟩).map fun b =>
            { after := t.setPort p
                { t.ports p with sendBuf := b.2.sendBuf, sendPtr := some b.2.sendPtr }
              encoded := ⟨(t.ports p).sendBuf, ptr⟩
              frame := b.1 }

theorem mrpTx_eq (env : Env n) (t : State n) (p : Fin n) :
    mrpTx env t p = (mrpTransmit env t p).map Transmission.after := by
  rw [mrpTx, mrpTransmit, Option.map_bind]
  congr 1
  funext u
  dsimp only [Function.comp]
  cases hptr : (u.ports p).sendPtr with
  | none => rfl
  | some ptr =>
    dsimp only
    rw [Option.map_bind]
    congr 1
    funext v
    dsimp only [Function.comp]
    cases hptr' : (v.ports p).sendPtr with
    | none => rfl
    | some ptr' =>
      dsimp only
      rw [Option.map_map]
      rfl

/-- The LeaveAll is sent and cleared: the frame carries it in every vector header, and the next
transmission does not take it for pending. -/
structure SentOnce (T : Transmission n) (p : Fin n) : Prop where
  sent : ∃ frame, T.frame = some frame ∧
    ∀ msg, MsgAt T.encoded msg → leaveAllEvent frame.1 (msg + 4) ≠ 0
  cleared : (T.after.ports p).leaveall = false
  next : ∀ ptr, txEvent (T.after.ports p).leaveall ptr = .tx

/-! ### The flag -/

/-- `leaveall` is the same. -/
def SameLeaveall (t t' : State n) : Prop := ∀ q, (t'.ports q).leaveall = (t.ports q).leaveall

namespace SameLeaveall

theorem refl (t : State n) : SameLeaveall t t := fun _ => rfl

theorem trans {v : State n} (h : SameLeaveall t u) (h' : SameLeaveall u v) : SameLeaveall t v :=
  fun q => (h' q).trans (h q)

theorem setPort {pp : Participant} (h : pp.leaveall = (t.ports p).leaveall) :
    SameLeaveall t (t.setPort p pp) := by
  intro q
  by_cases hq : q = p
  · rw [hq, State.setPort_ports_self, h]
  · rw [State.setPort_ports_of_ne hq]

theorem record (t : State n) (x : Record n) : SameLeaveall t (t.record x) := fun _ => rfl

theorem mrpReqTxOpportunity (t : State n) (p : Fin n) :
    SameLeaveall t (Msrp.mrpReqTxOpportunity t p) := by
  rw [Msrp.mrpReqTxOpportunity]
  split
  · exact refl t
  · exact setPort rfl

theorem keepsEvent : KeepsEvent env SameLeaveall e :=
  keepsEvent_of_primitive refl trans (fun _ _ _ _ => setPort rfl) mrpReqTxOpportunity
    fun _ _ _ _ => setPort rfl

theorem eventFrame : EventFrame env (SameLeaveall (n := n)) where
  refl := refl
  trans := trans
  machine _ _ _ _ := setPort rfl
  failure _ _ := setPort rfl
  timer t p action := by
    rw [registrarTimer]
    split
    · exact trans (by exact setPort rfl) (record _ _)
    · exact refl t
  reservations h q := by rw [h.ports]
  record t x _ := record t x
  silent _ := keepsEvent

theorem madEvent (h : Msrp.madEvent env t q e = some t') : SameLeaveall t t' :=
  eventFrame.madEvent keepsEvent (fun _ _ _ => setPort rfl) h

end SameLeaveall

theorem leaveallTimerAction_ports {action : Action} :
    ((leaveallTimerAction t q action).ports p).leaveall = (t.ports p).leaveall ∧
      ((leaveallTimerAction t q action).ports p).sendBuf = (t.ports p).sendBuf ∧
      ((leaveallTimerAction t q action).ports p).sendPtr = (t.ports p).sendPtr := by
  rw [leaveallTimerAction]
  split
  · by_cases hq : p = q
    · rw [State.record_ports, hq, State.setPort_ports_self]
      exact ⟨rfl, rfl, rfl⟩
    · rw [State.record_ports, State.setPort_ports_of_ne hq]
      exact ⟨rfl, rfl, rfl⟩
  · exact ⟨rfl, rfl, rfl⟩

/-- An event of the participant raises the flag, or leaves it as it is. -/
theorem leaveall_madParticipantEvent (h : madParticipantEvent env t p e = some t')
    (hpending : (t.ports p).leaveall = true) : (t'.ports p).leaveall = true := by
  rw [madParticipantEvent] at h
  dsimp only at h
  split at h
  · rw [← Option.some_inj.mp h]
    exact hpending
  · obtain ⟨w, hw, rfl⟩ := Option.map_eq_some_iff.mp h
    have hsent : (w.ports p).leaveall = true := by
      split at hw
      · rw [SameLeaveall.madEvent hw p, State.setPort_ports_self]
      · rw [← Option.some_inj.mp hw]
        exact hpending
    rw [State.setPort_ports_self]
    dsimp only
    split
    · rw [SameLeaveall.mrpReqTxOpportunity _ p p, leaveallTimerAction_ports.1]
      exact hsent
    · rw [leaveallTimerAction_ports.1]
      exact hsent

/-- The parts of a transmission. -/
theorem mrpTransmit_cases {T : Transmission n} (h : mrpTransmit env t p = some T) :
    ∃ u ptr v ptr' b, madParticipantEvent env t p .tx = some u ∧ (u.ports p).sendPtr = some ptr ∧
      madEvent env u p (txEvent (u.ports p).leaveall ptr) = some v ∧
      (v.ports p).sendPtr = some ptr' ∧ mrpPduExSend ⟨(v.ports p).sendBuf, ptr'⟩ = some b ∧
      T = ⟨v.setPort p { v.ports p with sendBuf := b.2.sendBuf, sendPtr := some b.2.sendPtr },
        ⟨(v.ports p).sendBuf, ptr'⟩, b.1⟩ := by
  rw [mrpTransmit] at h
  obtain ⟨u, hu, h⟩ := Option.bind_eq_some_iff.mp h
  cases hptr : (u.ports p).sendPtr with
  | none =>
    rw [hptr] at h
    cases h
  | some ptr =>
    rw [hptr] at h
    obtain ⟨v, hv, h⟩ := Option.bind_eq_some_iff.mp h
    cases hptr' : (v.ports p).sendPtr with
    | none =>
      rw [hptr'] at h
      cases h
    | some ptr' =>
      rw [hptr'] at h
      obtain ⟨b, hb, rfl⟩ := Option.map_eq_some_iff.mp h
      exact ⟨u, ptr, v, ptr', b, hu, hptr, hv, hptr', hb, rfl⟩

/-- A transmission does not clear the flag. -/
theorem leaveall_mrpTransmit {T : Transmission n} (htx : mrpTransmit env t p = some T)
    (hpending : (t.ports p).leaveall = true) : (T.after.ports p).leaveall = true := by
  obtain ⟨u, ptr, v, ptr', b, hu, -, hv, -, -, rfl⟩ := mrpTransmit_cases htx
  rw [State.setPort_ports_self]
  show (v.ports p).leaveall = true
  rw [SameLeaveall.madEvent hv p]
  exact leaveall_madParticipantEvent hu hpending

/-- **A pending LeaveAll is never sent once and cleared.** -/
theorem leaveall_never_sentOnce (env : Env n) (t : State n) (p : Fin n) (T : Transmission n)
    (hpending : (t.ports p).leaveall = true) (htx : mrpTransmit env t p = some T)
    (_hencoded : T.encoded.sendPtr ≠ firstMsg) : ¬ SentOnce T p := by
  intro hsent
  exact Bool.false_ne_true (hsent.cleared.symm.trans (leaveall_mrpTransmit htx hpending))

/-- A Talker that is to be declared, with a LeaveAll pending. -/
def pendingLeaveall : State 1 :=
  ((State.idle 1).setPort ⟨0, Nat.one_pos⟩ { Participant.idle with leaveall := true }).setMachine
    ⟨0, Nat.one_pos⟩ .first ((MadMachine.ofStream .talkerAdvertise .dec).withAppState .VN)

theorem pendingLeaveall_transmits :
    ∃ T, mrpTransmit ⟨true, fun _ _ => false⟩ pendingLeaveall ⟨0, Nat.one_pos⟩ = some T ∧
      T.encoded.sendPtr ≠ firstMsg := by
  have hptr : (mrpTransmit ⟨true, fun _ _ => false⟩ pendingLeaveall ⟨0, Nat.one_pos⟩).map
      (fun T => T.encoded.sendPtr) = some 49 := by decide +kernel
  obtain ⟨T, hT, heq⟩ := Option.map_eq_some_iff.mp hptr
  refine ⟨T, hT, ?_⟩
  rw [heq]
  decide

theorem pendingLeaveall_pending :
    ∃ T, mrpTransmit ⟨true, fun _ _ => false⟩ pendingLeaveall ⟨0, Nat.one_pos⟩ = some T ∧
      ¬ SentOnce T ⟨0, Nat.one_pos⟩ := by
  obtain ⟨T, hT, hne⟩ := pendingLeaveall_transmits
  exact ⟨T, hT, leaveall_never_sentOnce _ pendingLeaveall _ T rfl hT hne⟩

/-- The Talker's declaration is encoded, and the LeaveAll stays pending. -/
theorem pendingLeaveall_not_cleared :
    ¬ ∀ (t : State 1) (T : Transmission 1), (t.ports ⟨0, Nat.one_pos⟩).leaveall = true →
      mrpTransmit ⟨true, fun _ _ => false⟩ t ⟨0, Nat.one_pos⟩ = some T →
      T.encoded.sendPtr ≠ firstMsg → SentOnce T ⟨0, Nat.one_pos⟩ := by
  intro hall
  obtain ⟨T, hT, hne⟩ := pendingLeaveall_transmits
  have hcleared := (hall pendingLeaveall T rfl hT hne).cleared
  rw [leaveall_mrpTransmit hT rfl] at hcleared
  exact Bool.false_ne_true hcleared.symm

/-! ### The messages -/

/-- `send_buf` and `send_ptr` of port `p` are the same. -/
def SameBuffer (p : Fin n) (t t' : State n) : Prop :=
  (t'.ports p).sendBuf = (t.ports p).sendBuf ∧ (t'.ports p).sendPtr = (t.ports p).sendPtr

namespace SameBuffer

theorem refl (t : State n) : SameBuffer p t t := ⟨rfl, rfl⟩

theorem trans {v : State n} (h : SameBuffer p t u) (h' : SameBuffer p u v) : SameBuffer p t v :=
  ⟨h'.1.trans h.1, h'.2.trans h.2⟩

theorem setPort {pp : Participant} (hbuf : pp.sendBuf = (t.ports q).sendBuf)
    (hptr : pp.sendPtr = (t.ports q).sendPtr) : SameBuffer p t (t.setPort q pp) := by
  by_cases hq : p = q
  · subst hq
    rw [SameBuffer, State.setPort_ports_self]
    exact ⟨hbuf, hptr⟩
  · rw [SameBuffer, State.setPort_ports_of_ne hq]
    exact ⟨rfl, rfl⟩

theorem record (t : State n) (x : Record n) : SameBuffer p t (t.record x) := ⟨rfl, rfl⟩

theorem mrpReqTxOpportunity (t : State n) (q : Fin n) :
    SameBuffer p t (Msrp.mrpReqTxOpportunity t q) := mrpReqTxOpportunity_written

/-- The applicant does not touch the buffer if it sends nothing. -/
theorem of_unsent (hsent : sentBy t q ref e = none) (h : applicant env t q ref e = some (t', r)) :
    SameBuffer p t t' := by
  rw [applicant] at h
  rw [sentBy] at hsent
  cases htr : applicantTrans (t.ports q).pointToPoint (t.machine q ref) e with
  | none =>
    rw [htr] at h
    rw [← (Prod.mk.inj (Option.some_inj.mp h)).1]
    exact refl t
  | some entry =>
    rw [htr] at h hsent
    rw [Option.bind_some] at hsent
    dsimp only at h
    by_cases hmgt : (t.machine q ref).appMgt = .nonParticipant
    · rw [if_pos hmgt] at h
      rw [← (Prod.mk.inj (Option.some_inj.mp h)).1]
      exact setPort rfl rfl
    · rw [if_neg hmgt] at h hsent
      rw [hsent] at h
      rw [← (Prod.mk.inj (Option.some_inj.mp h)).1]
      exact keeps_finish (SameBuffer p) trans (fun _ _ _ _ => setPort rfl rfl) mrpReqTxOpportunity

theorem keepsEvent_of_silent (hsilent : e.Silent) : KeepsEvent env (SameBuffer p) e := by
  intro t t' q ref r h
  cases hsent : sentBy t q ref e with
  | none => exact of_unsent hsent h
  | some vector => exact absurd hsilent (not_silent_of_sentBy hsent)

theorem eventFrame : EventFrame env (SameBuffer p) where
  refl := refl
  trans := trans
  machine _ _ _ _ := setPort rfl rfl
  failure _ _ := setPort rfl rfl
  timer t q action := by
    rw [registrarTimer]
    split
    · exact trans (by exact setPort rfl rfl) (record _ _)
    · exact refl t
  reservations h := by
    rw [SameBuffer, h.ports]
    exact ⟨rfl, rfl⟩
  record t x _ := record t x
  silent := keepsEvent_of_silent

/-- An event of a machine that sends nothing. -/
theorem madAttrEvent (hsent : sentBy t q ref e = none)
    (h : Msrp.madAttrEvent env t q ref e = some (t', r)) : SameBuffer p t t' := by
  by_cases hsilent : e.Silent
  · exact eventFrame.madAttrEvent (keepsEvent_of_silent hsilent) h
  · rw [madAttrEvent_of_not_silent hsilent] at h
    have hrecord : SameBuffer p t (t.record (.madAttrEvent q ref e)) := record t _
    exact hrecord.trans (of_unsent hsent h)

theorem madParticipantEvent (h : Msrp.madParticipantEvent env t q e = some t') :
    SameBuffer p t t' := by
  refine trans (record t (.madParticipantEvent q e)) (eventFrame.madParticipantEvent
    (fun _ _ _ => setPort rfl rfl) (fun _ _ => setPort rfl rfl) (fun _ _ _ => ?_)
    mrpReqTxOpportunity (fun _ _ _ => setPort rfl rfl) h)
  exact ⟨leaveallTimerAction_ports.2.1, leaveallTimerAction_ports.2.2⟩

end SameBuffer

/-- The buffer holds messages of at most `k` values each. -/
def FewValues (k : ℕ) (pp : Participant) : Prop :=
  ∃ ptr gs, pp.sendPtr = some ptr ∧ Rep ⟨pp.sendBuf, ptr⟩ gs ∧
    ∀ g ∈ gs, g.Valid ∧ g.members.length ≤ k

theorem FewValues.of_same (hfew : FewValues k (t.ports p)) (h : SameBuffer p t t') :
    FewValues k (t'.ports p) := by
  obtain ⟨ptr, gs, hptr, hrep, hgs⟩ := hfew
  refine ⟨ptr, gs, h.2.trans hptr, ?_, hgs⟩
  rw [h.1]
  exact hrep

theorem FewValues.mono {l : ℕ} {pp : Participant} (hfew : FewValues k pp) (hle : k ≤ l) :
    FewValues l pp := by
  obtain ⟨ptr, gs, hptr, hrep, hgs⟩ := hfew
  exact ⟨ptr, gs, hptr, hrep, fun g hg => ⟨(hgs g hg).1, (hgs g hg).2.trans hle⟩⟩

/-- An event of a machine puts one value more into a message, at most. -/
theorem FewValues.madAttrEvent (hk : k < 255) (hfew : FewValues k (t.ports p))
    (h : Msrp.madAttrEvent env t p ref e = some (t', r)) : FewValues (k + 1) (t'.ports p) := by
  cases hsent : sentBy t p ref e with
  | none => exact (hfew.of_same (SameBuffer.madAttrEvent hsent h)).mono (Nat.le_succ k)
  | some vector =>
    obtain ⟨hnone, hsome⟩ := @madAttrEvent_sends n env t p ref e vector hsent
    cases hb : doTxMachine env t p (t.machine p ref) vector with
    | none =>
      rw [hnone hb] at h
      cases h
    | some b =>
      obtain ⟨t'', hevent, hbuf, hptr'⟩ := hsome b hb
      rw [hevent] at h
      obtain ⟨rfl, -⟩ := Prod.mk.inj (Option.some_inj.mp h)
      obtain ⟨ptr, gs, hptr, hrep, hgs⟩ := hfew
      rw [doTxMachine_eq hptr (doTxMachine_some hb).2] at hb
      have hroom : Room gs := fun g hg => ⟨(hgs g hg).1, (hgs g hg).2.trans_lt hk⟩
      have hcall : doTxCall env.charSigned ⟨(t.ports p).sendBuf, ptr⟩
          ⟨(t.machine p ref).attributeType, (t.machine p ref).txInfo t, vector, 0⟩ = some b := hb
      obtain ⟨-, hmany⟩ := addDecl_growth env.charSigned
        ⟨(t.machine p ref).attributeType, (t.machine p ref).txInfo t, vector, 0⟩ hroom
        fun g hg => (hgs g hg).2
      refine ⟨b.sendPtr, _, hptr', ?_, fun g hg => ⟨addDecl_valid hroom g hg, hmany g hg⟩⟩
      rw [hbuf]
      exact doTxCall_rep hroom hrep hcall

theorem FewValues.machineLoop {selected : MadMachine → Bool} {is : List (Fin 24)}
    (hk : k + is.length < 256) (hfew : FewValues k (t.ports p))
    (h : Msrp.machineLoop env p selected e is t = some t') :
    FewValues (k + is.length) (t'.ports p) := by
  induction is generalizing t k with
  | nil =>
    rw [← Option.some_inj.mp h]
    exact hfew
  | cons i is ih =>
    rw [List.length_cons] at hk ⊢
    rw [Msrp.machineLoop] at h
    split at h
    · cases hev : Msrp.madAttrEvent env t p (.slot i) e with
      | none =>
        rw [hev] at h
        cases h
      | some w =>
        rw [hev] at h
        have hfirst := FewValues.madAttrEvent (by omega) hfew hev
        dsimp only at h
        split at h
        · rw [← Option.some_inj.mp h]
          have hnext : SameBuffer p w.1
              (w.1.setPort p { w.1.ports p with nextToProcess := i }) := SameBuffer.setPort rfl rfl
          exact (hfirst.of_same hnext).mono (by omega)
        · exact (ih (by omega) hfirst h).mono (by omega)
    · exact (ih (by omega) hfew h).mono (by omega)

/-- A vector header of a message in the buffer carries no LeaveAll. -/
theorem leaveAll_of_rep {b : SendBuffer} {gs : List Message} {msg : ℕ}
    (hvalid : ∀ g ∈ gs, g.Valid) (hrep : Rep b gs) (hat : MsgAt b msg) :
    b.sendBuf (msg + 4) = 0 ∧ msg + 4 < b.sendPtr := by
  obtain ⟨a, g, c, rfl, rfl⟩ := (msgAt_iff hvalid hrep).mp hat
  have hv : g.Valid := hvalid g (by simp)
  have hlist := hv.listLength_lt
  have hfew := hv.few
  have hregion : Region b (pduOctets a ++ g.octets ++ pduOctets c) := by
    rw [List.append_assoc, ← pduOctets_cons, ← pduOctets_append]
    exact hrep
  constructor
  · have hmem := hregion.1
    rw [Message.octets, framed, List.append_assoc, List.append_assoc] at hmem
    exact (header_reads hmem rfl (by omega) (by omega)).2.2.2.1
  · have hptr := hregion.2
    have hlength := g.length_octets
    rw [Message.listLength] at hlength
    rw [List.length_append, List.length_append] at hptr
    omega

/-- The frame of a PDU is the buffer up to `send_ptr`, with padding behind it. -/
theorem mrpPduExSend_frame {b : SendBuffer} {sent : Option (Mem × ℕ) × SendBuffer}
    {frame : Mem × ℕ} {a : ℕ} (h : mrpPduExSend b = some sent) (hframe : sent.1 = some frame)
    (ha : a < b.sendPtr) : frame.1 a = b.sendBuf a := by
  rw [mrpPduExSend] at h
  split at h
  · dsimp only at h
    split at h
    · rw [← Option.some_inj.mp h] at hframe
      rw [← Option.some_inj.mp hframe, mrpPduCheckSend]
      show fill (fill b.sendBuf b.sendPtr 0 _) _ 0x55 4 a = b.sendBuf a
      rw [fill, putList_of_lt (by omega), fill, putList_of_lt ha]
    · cases h
  · rw [← Option.some_inj.mp h] at hframe
    cases hframe

/-- From an empty buffer, no vector header of the frame carries the LeaveAll. -/
theorem leaveall_not_encoded {T : Transmission n} {frame : Mem × ℕ} {msg : ℕ}
    (hempty : (t.ports p).sendPtr = some firstMsg) (htx : mrpTransmit env t p = some T)
    (hframe : T.frame = some frame) (hat : MsgAt T.encoded msg) :
    leaveAllEvent frame.1 (msg + 4) = 0 := by
  obtain ⟨u, ptr, v, ptr', b, hu, -, hv, hptr', hb, rfl⟩ := mrpTransmit_cases htx
  have hstart : FewValues 0 (t.ports p) :=
    ⟨firstMsg, [], hempty, rep_nil, fun _ hg => absurd hg List.not_mem_nil⟩
  have hu' : FewValues 0 (u.ports p) := hstart.of_same (SameBuffer.madParticipantEvent hu)
  have hfew : (nextMachines u p).length ≤ 24 := by
    refine (List.length_filter_le _ _).trans ?_
    rw [List.length_finRange]
  have hcall : FewValues 0 ((u.record
      (.madEvent p (txEvent (u.ports p).leaveall ptr))).ports p) := hu'
  obtain ⟨ptr'', gs, hptr'', hrep, hgs⟩ := hcall.machineLoop (by omega) hv
  obtain rfl : ptr' = ptr'' := Option.some_inj.mp (hptr'.symm.trans hptr'')
  obtain ⟨hzero, hlt⟩ := leaveAll_of_rep (fun g hg => (hgs g hg).1) hrep hat
  rw [leaveAllEvent, mrpPduExSend_frame hb hframe hlt, hzero]
  rfl

end Msrp
