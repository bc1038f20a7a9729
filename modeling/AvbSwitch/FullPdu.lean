/-
What `mad_attr_event` does when the PDU is full.

A message fits if its room and the footer are left in the send buffer: `MessageFits`.  If it does not,
the event should answer -1, ask for another opportunity and leave the buffer and the state of the
machine as they are; if it does, the event should succeed (`FullPduSafe`).

`doTx` stores the message before it looks for room, and it returns nothing: what its caller finds in
place of the result is `doTxNegative` of the environment.
-/
import AvbSwitch.MessageRoom
import AvbSwitch.MsrpFrames
import AvbSwitch.MsrpService

namespace Msrp

open Octets

variable {n : ℕ} {env : Env n} {t t' : State n} {p : Fin n} {ref : MachineRef} {m : MadMachine}
  {e : MrpEvent} {vector : AttrEvent} {b : SendBuffer}

/-! ### The message of an event -/

/-- The event that is sent in answer to `e`, if one is. -/
def sentBy (t : State n) (p : Fin n) (ref : MachineRef) (e : MrpEvent) : Option AttrEvent :=
  (applicantTrans (t.ports p).pointToPoint (t.machine p ref) e).bind fun trans =>
    if (t.machine p ref).appMgt = .nonParticipant then none
    else sentEvent ((t.machine p ref).regState = .IN ∨
      (t.machine p ref).regMgt ≠ .normalRegistration) trans.action

/-- The stream information that `doTx` works with. -/
def MadMachine.txInfo (m : MadMachine) (t : State n) : StreamInfo :=
  (m.attributeInfo.map t.streamInfoVars).getD .zero

/-- `attribute_info` points to something where it is read. -/
def MadMachine.InfoReadable (m : MadMachine) : Prop :=
  m.attributeType = .talkerAdvertise ∨ m.attributeType = .listener → m.attributeInfo ≠ none

/-- The message of the machine fits between `send_ptr` and the end of the buffer, with room for the
footer. -/
def MessageFits (env : Env n) (t : State n) (p : Fin n) (m : MadMachine) : Prop :=
  ∃ ptr, (t.ports p).sendPtr = some ptr ∧
    ptr + messageRoom env.charSigned ⟨(t.ports p).sendBuf, ptr⟩ m.attributeType (m.txInfo t) +
      mrpFooterSize ≤ mrpSendBufferSize

/-- The participant with what `doTx` has written. -/
def State.written (t : State n) (p : Fin n) (b : SendBuffer) : State n :=
  t.setPort p { t.ports p with sendBuf := b.sendBuf, sendPtr := some b.sendPtr }

/-- `doTx` for a machine, when its pointers can be followed. -/
theorem doTxMachine_eq {ptr : ℕ} (hptr : (t.ports p).sendPtr = some ptr) (hinfo : m.InfoReadable) :
    doTxMachine env t p m vector = doTx env.charSigned ⟨(t.ports p).sendBuf, ptr⟩
      m.attributeType (m.txInfo t) vector.index := by
  rw [doTxMachine, hptr, MadMachine.txInfo]
  cases hi : m.attributeInfo with
  | some i => rfl
  | none =>
    have hno : ¬ (m.attributeType = .talkerAdvertise ∨ m.attributeType = .listener) :=
      fun h => hinfo h hi
    dsimp only
    rw [if_neg hno]
    rfl

theorem doTxMachine_room {ptr : ℕ} (hptr : (t.ports p).sendPtr = some ptr) (hinfo : m.InfoReadable) :
    ∃ q, q.sendPtr = ptr + messageRoom env.charSigned ⟨(t.ports p).sendBuf, ptr⟩ m.attributeType
        (m.txInfo t) ∧
      q ≠ ⟨(t.ports p).sendBuf, ptr⟩ ∧
      doTxMachine env t p m vector = if q.sendPtr ≤ mrpSendBufferSize then some q else none := by
  rw [doTxMachine_eq hptr hinfo]
  exact doTx_room env.charSigned ⟨(t.ports p).sendBuf, ptr⟩ ⟨m.attributeType, m.txInfo t, vector, 0⟩

/-- What `doTx` needs for a machine. -/
theorem doTxMachine_some (h : doTxMachine env t p m vector = some b) :
    (∃ ptr, (t.ports p).sendPtr = some ptr) ∧ m.InfoReadable := by
  rw [doTxMachine] at h
  cases hptr : (t.ports p).sendPtr with
  | none =>
    rw [hptr] at h
    cases h
  | some ptr =>
    refine ⟨⟨ptr, rfl⟩, fun hstream hnull => ?_⟩
    rw [hptr, hnull] at h
    dsimp only at h
    rw [if_pos hstream] at h
    cases h

/-! ### The event -/

/-- Only an event of `mrp_tx` sends something, and the registrar has no transition for it. -/
theorem registrarEntry_of_not_silent : ∀ (s : RegistrarState) (e : MrpEvent), ¬ e.Silent →
    (registrarEntry s e).state = .invalid := by decide

theorem not_silent_of_sentBy (h : sentBy t p ref e = some vector) : ¬ e.Silent := by
  intro hsilent
  obtain ⟨trans, htrans, hsent⟩ := Option.bind_eq_some_iff.mp h
  have hne : e ≠ .tx := by
    rintro rfl
    exact absurd hsilent (by decide)
  have hentry : trans = applicantEntry (t.machine p ref).appState e := by
    rw [applicantTrans] at htrans
    split at htrans
    · cases htrans
    · split at htrans
      · cases htrans
      · split at htrans
        · cases htrans
        · rw [if_neg fun h => hne h.2.1] at htrans
          exact (Option.some_inj.mp htrans).symm
  split at hsent
  · cases hsent
  · rw [hentry, applicantEntry_silent _ _ _ hsilent] at hsent
    cases hsent

theorem madAttrEvent_of_not_silent (h : ¬ e.Silent) :
    madAttrEvent env t p ref e = applicant env (t.record (.madAttrEvent p ref e)) p ref e := by
  rw [madAttrEvent]
  split
  · rfl
  · have hregistrar : registrar env (t.record (.madAttrEvent p ref e)) p ref e =
        some (t.record (.madAttrEvent p ref e)) := by
      rw [registrar]
      exact if_pos (registrarEntry_of_not_silent _ _ h)
    rw [hregistrar, Option.bind_some]

theorem mrpReqTxOpportunity_written {q : Fin n} :
    ((mrpReqTxOpportunity t q).ports p).sendBuf = (t.ports p).sendBuf ∧
      ((mrpReqTxOpportunity t q).ports p).sendPtr = (t.ports p).sendPtr := by
  rw [mrpReqTxOpportunity]
  split
  · exact ⟨rfl, rfl⟩
  · by_cases hq : p = q
    · rw [hq, State.setPort_ports_self]
      exact ⟨rfl, rfl⟩
    · rw [State.setPort_ports_of_ne hq]
      exact ⟨rfl, rfl⟩

/-- What was written stays if an opportunity to transmit is requested after it. -/
theorem written_requested {c : Prop} [Decidable c] :
    ((if c then mrpReqTxOpportunity (t.written p b) p else t.written p b).ports p).sendBuf =
        b.sendBuf ∧
      ((if c then mrpReqTxOpportunity (t.written p b) p else t.written p b).ports p).sendPtr =
        some b.sendPtr := by
  have hwritten : ((t.written p b).ports p).sendBuf = b.sendBuf ∧
      ((t.written p b).ports p).sendPtr = some b.sendPtr := by
    rw [State.written, State.setPort_ports_self]
    exact ⟨rfl, rfl⟩
  split
  · have hreq := mrpReqTxOpportunity_written (t := t.written p b) (p := p) (q := p)
    exact ⟨hreq.1.trans hwritten.1, hreq.2.trans hwritten.2⟩
  · exact hwritten

/-- What becomes of the send buffer in an event that sends something. -/
theorem madAttrEvent_sends (h : sentBy t p ref e = some vector) :
    (doTxMachine env t p (t.machine p ref) vector = none → madAttrEvent env t p ref e = none) ∧
      ∀ b, doTxMachine env t p (t.machine p ref) vector = some b →
        ∃ t', madAttrEvent env t p ref e = some (t',
            if env.doTxNegative (t.record (.madAttrEvent p ref e)) p then -1 else 0) ∧
          (t'.ports p).sendBuf = b.sendBuf ∧ (t'.ports p).sendPtr = some b.sendPtr := by
  rw [madAttrEvent_of_not_silent (not_silent_of_sentBy h)]
  obtain ⟨trans, htrans, hsent⟩ := Option.bind_eq_some_iff.mp h
  have hmgt : (t.machine p ref).appMgt ≠ .nonParticipant := by
    intro hmgt
    rw [if_pos hmgt] at hsent
    cases hsent
  rw [if_neg hmgt] at hsent
  set u := t.record (.madAttrEvent p ref e) with hu
  have htrans' : applicantTrans (u.ports p).pointToPoint (u.machine p ref) e = some trans := htrans
  have hmgt' : (u.machine p ref).appMgt ≠ .nonParticipant := hmgt
  have hsent' : sentEvent ((u.machine p ref).regState = .IN ∨
      (u.machine p ref).regMgt ≠ .normalRegistration) trans.action = some vector := hsent
  have hdoTx : doTxMachine env t p (t.machine p ref) vector =
      doTxMachine env u p (u.machine p ref) vector := rfl
  rw [hdoTx, applicant]
  dsimp only
  rw [htrans']
  dsimp only
  rw [if_neg hmgt', hsent']
  dsimp only
  constructor
  · intro hnone
    rw [hnone]
  · intro b hb
    rw [hb]
    dsimp only
    by_cases hneg : env.doTxNegative u p = true
    · have hrequested := @written_requested n u p b True _
      rw [if_pos hneg, if_pos hneg]
      exact ⟨_, rfl, hrequested⟩
    · rw [if_neg hneg, if_neg hneg]
      refine ⟨_, rfl, ?_⟩
      rw [State.setAppState, State.setMachine, State.setPort_ports_self]
      exact written_requested

/-! ### The property -/

/-- A full PDU leaves the state as it is, and one with room takes the message. -/
structure FullPduSafe (env : Env n) (t : State n) (p : Fin n) (ref : MachineRef) (e : MrpEvent) :
    Prop where
  full : ¬ MessageFits env t p (t.machine p ref) →
    ∃ t', madAttrEvent env t p ref e = some (t', -1) ∧
      (t'.ports p).sendBuf = (t.ports p).sendBuf ∧ (t'.ports p).sendPtr = (t.ports p).sendPtr ∧
      (t'.machine p ref).appState = (t.machine p ref).appState ∧
      (t'.ports p).joinTimer.running = true
  room : MessageFits env t p (t.machine p ref) →
    ∃ t' r ptr, madAttrEvent env t p ref e = some (t', r) ∧ 0 ≤ r ∧
      (t'.ports p).sendPtr = some ptr ∧ ptr ≤ mrpSendBufferSize

/-- **A full PDU never leaves the state as it is.**  The event is safe if and only if its message
fits, its stream information can be read, and what is found in place of the result of `doTx` is not
negative. -/
theorem fullPdu_safe_iff (env : Env n) (t : State n) (p : Fin n) (ref : MachineRef) (e : MrpEvent)
    (vector : AttrEvent) (h : sentBy t p ref e = some vector) :
    FullPduSafe env t p ref e ↔
      (t.machine p ref).InfoReadable ∧ MessageFits env t p (t.machine p ref) ∧
        env.doTxNegative (t.record (.madAttrEvent p ref e)) p = false := by
  obtain ⟨hnone, hsome⟩ := @madAttrEvent_sends n env t p ref e vector h
  constructor
  · intro hsafe
    cases hb : doTxMachine env t p (t.machine p ref) vector with
    | none =>
      -- there is no result at all
      by_cases hfits : MessageFits env t p (t.machine p ref)
      · obtain ⟨t', r, ptr, hevent, -⟩ := hsafe.room hfits
        rw [hnone hb] at hevent
        cases hevent
      · obtain ⟨t', hevent, -⟩ := hsafe.full hfits
        rw [hnone hb] at hevent
        cases hevent
    | some b =>
      obtain ⟨⟨ptr, hptr⟩, hinfo⟩ := doTxMachine_some hb
      obtain ⟨t', hevent, hbuf, hptr'⟩ := hsome b hb
      by_cases hfits : MessageFits env t p (t.machine p ref)
      · obtain ⟨u, r, -, hevent', hr, -⟩ := hsafe.room hfits
        refine ⟨hinfo, hfits, Bool.eq_false_of_not_eq_true fun hneg => ?_⟩
        rw [hevent, if_pos hneg] at hevent'
        rw [← (Prod.mk.inj (Option.some_inj.mp hevent')).2] at hr
        exact absurd hr (by decide)
      · -- the message has been stored all the same
        obtain ⟨u, hevent', hbuf', hptr'', -⟩ := hsafe.full hfits
        rw [hevent] at hevent'
        obtain ⟨rfl, -⟩ := Prod.mk.inj (Option.some_inj.mp hevent')
        obtain ⟨q, -, hne, hq⟩ := @doTxMachine_room n env t p _ vector _ hptr hinfo
        rw [hb] at hq
        split at hq
        · obtain rfl := Option.some_inj.mp hq
          rw [hptr', hptr] at hptr''
          refine absurd ?_ hne
          rw [← hbuf', hbuf, ← Option.some_inj.mp hptr'']
        · cases hq
  · rintro ⟨hinfo, hfits, hneg⟩
    refine ⟨fun hfull => absurd hfits hfull, fun _ => ?_⟩
    obtain ⟨ptr, hptr, hroom⟩ := hfits
    obtain ⟨q, hq, -, hdoTx⟩ := @doTxMachine_room n env t p _ vector _ hptr hinfo
    have hle : q.sendPtr ≤ mrpSendBufferSize := by
      rw [hq]
      exact le_trans (Nat.le_add_right _ _) hroom
    rw [if_pos hle] at hdoTx
    obtain ⟨t', hevent, -, hptr'⟩ := hsome q hdoTx
    rw [hneg, if_neg Bool.false_ne_true] at hevent
    exact ⟨t', 0, q.sendPtr, hevent, le_rfl, hptr', hle⟩

/-- A declaration of a Talker on the only port, whose buffer is filled up to `send_ptr` by one Domain
message. -/
def talkerBehind (sendPtr : ℕ) : State 1 :=
  ((State.idle 1).setPort ⟨0, Nat.one_pos⟩ { Participant.idle with
    sendBuf := put2 (put (fun _ => 0) firstMsg (UInt8.ofNat (encodeAttrType .domainVector)))
      (firstMsg + 2) (sendPtr - firstMsg - 4)
    sendPtr := some sendPtr }).setMachine ⟨0, Nat.one_pos⟩ .first
      ((MadMachine.ofStream .talkerAdvertise .dec).withAppState .VN)

/-- A Talker Advertise takes 34 octets of a buffer with enough room. -/
theorem fullPdu_safe_room :
    FullPduSafe ⟨true, fun _ _ => false⟩ (talkerBehind 1000) ⟨0, Nat.one_pos⟩ .first .txLa := by
  refine (fullPdu_safe_iff ⟨true, fun _ _ => false⟩ (talkerBehind 1000) ⟨0, Nat.one_pos⟩ .first .txLa
    .new (by decide +kernel)).mpr ⟨fun _ => ?_, ⟨1000, rfl, by decide +kernel⟩, rfl⟩
  exact fun h => absurd (congrArg Option.isSome h) (by decide +kernel)

/-- With 34 octets left the footer has no room, but the message is stored. -/
theorem fullPdu_stored :
    sentBy (talkerBehind 1484) ⟨0, Nat.one_pos⟩ .first .txLa = some .new ∧
      ¬ FullPduSafe ⟨true, fun _ _ => false⟩ (talkerBehind 1484) ⟨0, Nat.one_pos⟩ .first .txLa := by
  refine ⟨by decide +kernel, fun h => ?_⟩
  have hfull : ¬ MessageFits ⟨true, fun _ _ => false⟩ (talkerBehind 1484) ⟨0, Nat.one_pos⟩
      ((talkerBehind 1484).machine ⟨0, Nat.one_pos⟩ .first) := by
    rintro ⟨ptr, hptr, hroom⟩
    rw [← Option.some_inj.mp hptr] at hroom
    exact absurd hroom (by decide +kernel)
  obtain ⟨t', hevent, -, hptr, -⟩ := h.full hfull
  have hstored : (madAttrEvent ⟨true, fun _ _ => false⟩ (talkerBehind 1484) ⟨0, Nat.one_pos⟩ .first
      .txLa).map (fun r => (r.1.ports ⟨0, Nat.one_pos⟩).sendPtr) = some (some 1518) := by
    decide +kernel
  rw [hevent, Option.map_some, Option.some_inj, hptr] at hstored
  exact absurd (Option.some_inj.mp hstored) (by decide)

end Msrp
