/-
The PDU under construction stays well formed.

`Laid p msg gs` is the statement about the octets of the buffer: stepping from `msg` by
the lengths in the message headers goes through the messages `gs` and ends exactly at
`send_ptr`, and each of them carries what `MessageAt` says.  It holds after every run of
`doTx` calls in which no message fills its octet of values (`pdu_wellFormed`).
-/
import AvbSwitch.PduLayout
import AvbSwitch.ReceiveLoops

namespace Msrp

open Octets Packed

/-- One `doTx` call. -/
def doTxCall (signed : Bool) (p : SendBuffer) (d : Decl) : Option SendBuffer :=
  doTx signed p d.attr d.info d.event.index

/-- The addresses of the messages, found by stepping over them. -/
inductive MsgAt (p : SendBuffer) : ℕ → Prop
  | first : firstMsg < p.sendPtr → MsgAt p firstMsg
  | next {msg : ℕ} : MsgAt p msg → msg + 4 + attributeLengthLength p.sendBuf msg < p.sendPtr →
      MsgAt p (msg + 4 + attributeLengthLength p.sendBuf msg)

/-- No message has reached 255 values. -/
def NoneFull (p : SendBuffer) : Prop := ∀ msg, MsgAt p msg → numberOfValuesLow p.sendBuf msg < 255

/-- What the octets at `msg` say about the message that lies there. -/
structure MessageAt (p : SendBuffer) (msg : ℕ) (g : Message) : Prop where
  attributeType : decodeAttrType (p.sendBuf msg).toNat = some g.attr
  values : numberOfValuesLow p.sendBuf msg = g.members.length
  listLength : attributeLengthLength p.sendBuf msg = 2 + firstValueLengths g.attr +
    (numberOfValuesLow p.sendBuf msg + 2) / 3 +
    (if g.attr = .listener then (numberOfValuesLow p.sendBuf msg + 3) / 4 else 0) + 2
  /-- the extent that the receive loops compute -/
  extent : vectorLen g.attr (p.sendBuf (msg + 1)).toNat (numvalues p.sendBuf (msg + 4)) + 2 =
    attributeLengthLength p.sendBuf msg
  endMark : p.sendBuf (msg + 4 + attributeLengthLength p.sendBuf msg - 2) = 0 ∧
    p.sendBuf (msg + 4 + attributeLengthLength p.sendBuf msg - 1) = 0
  events : ∀ i, (hi : i < g.members.length) →
    decodeThreepacked (p.sendBuf (msg + 6 + firstValueLengths g.attr + i / 3)).toNat (i % 3) =
      (g.members[i].event.index : ℤ)
  parameters : g.attr = .listener → ∀ i < g.members.length,
    decodeFourpacked (p.sendBuf (msg + 6 + firstValueLengths g.attr +
      (g.members.length + 2) / 3 + i / 4)).toNat (i % 4) = (fourPackedReady : ℤ)

/-- The messages lie one behind the other, from `msg` up to `send_ptr`. -/
def Laid (p : SendBuffer) : ℕ → List Message → Prop
  | msg, [] => msg = p.sendPtr
  | msg, g :: gs =>
    MessageAt p msg g ∧ Laid p (msg + 4 + attributeLengthLength p.sendBuf msg) gs

section Layout

variable {p : SendBuffer} {g : Message} {gs : List Message} {pre post : List UInt8} {msg : ℕ}

/-- An event is found where the receive loops look for it. -/
theorem decode_octetsOf {m : Mem} {b k a i : ℕ} {es : List ℕ} (hb : 0 < b) (hk : 0 < k)
    (hpow : b ^ k ≤ 256) (hes : ∀ e ∈ es, e < b) (h : Holds m a (octetsOf b k es))
    (hi : i < es.length) :
    (m (a + i / k)).toNat = wordAt b k es (i / k) ∧
      decodePacked b k (m (a + i / k)).toNat (i % k) = (es.getD i 0 : ℤ) := by
  have hlen : i / k < (octetsOf b k es).length := by
    rw [length_octetsOf]
    exact index_lt_words hk hi
  have hword : (m (a + i / k)).toNat = wordAt b k es (i / k) := by
    have hlt := wordAt_lt (k := k) hb hes (i / k)
    rw [h.getElem hlen]
    simp only [octetsOf, List.getElem_map, getElem_pack, UInt8.toNat_ofNat']
    omega
  refine ⟨hword, ?_⟩
  rw [hword, decodePacked_natCast, digit_pack hb hk hes]

theorem Message.events_lt (g : Message) : ∀ e ∈ g.events, e < 6 := by
  intro e he
  obtain ⟨d, -, rfl⟩ := List.mem_map.mp he
  exact d.event.index_lt

theorem Message.parameters_lt (g : Message) : ∀ e ∈ g.parameters, e < 4 := by
  intro e he
  rw [Message.parameters] at he
  split at he
  · rw [List.eq_of_mem_replicate he]
    decide
  · simp at he

/-- Where the parts of a message lie. -/
theorem message_parts {m : Mem} {a : ℕ} (hv : g.Valid) (hmem : Holds m a (pre ++ g.octets ++ post))
    (hmsg : msg = a + pre.length) :
    Holds m (msg + 6) g.first ∧
      Holds m (msg + 6 + firstValueLengths g.attr) (octetsOf 6 3 g.events) ∧
      Holds m (msg + 6 + firstValueLengths g.attr + (g.members.length + 2) / 3)
        (octetsOf 4 4 g.parameters) ∧
      Holds m (msg + 4 + g.listLength - 2) [0, 0] := by
  have hlist : msg + 4 + g.listLength - 2 = msg + 6 + g.body.length := by
    rw [Message.listLength]
    omega
  have hthreeLen : (octetsOf 6 3 g.events).length = (g.members.length + 2) / 3 := by
    rw [length_octetsOf, g.length_events]
  rw [Message.octets, framed, List.append_assoc, holds_append, List.append_assoc, holds_append,
    List.append_assoc, holds_append, ← hmsg, length_header] at hmem
  obtain ⟨-, -, hbody, hend⟩ := hmem
  rw [holds_append] at hend
  rw [Message.body, holds_append, holds_append, List.length_append, hv.first_length,
    hthreeLen] at hbody
  refine ⟨hbody.1.1, hbody.1.2, ?_, hlist ▸ hend.1⟩
  rw [Nat.add_assoc (msg + 6)]
  exact hbody.2

/-- The message header's `AttributeLength`, and a vector header without LeaveAll. -/
theorem message_header {m : Mem} {a : ℕ} (hv : g.Valid) (hmem : Holds m a (pre ++ g.octets ++ post))
    (hmsg : msg = a + pre.length) :
    (m (msg + 1)).toNat = firstValueLengths g.attr ∧ m (msg + 4) = 0 ∧
      numvalues m (msg + 4) = g.members.length := by
  have hlist := hv.listLength_lt
  have hfew := hv.few
  have hfirst := Message.firstValueLengths_le g.attr
  have hn := (message_reads hv hmem hmsg).2.2.1
  rw [Message.octets, framed, List.append_assoc, List.append_assoc] at hmem
  obtain ⟨-, hfvl, -, hzero, -⟩ := header_reads hmem hmsg (by omega) (by omega)
  refine ⟨?_, hzero, ?_⟩
  · rw [hfvl, UInt8.toNat_ofNat']
    omega
  · rw [numvalues, hzero]
    rw [numberOfValuesLow] at hn
    simpa using hn

theorem messageAt_of_region (hv : g.Valid) (h : Region p (pre ++ g.octets ++ post))
    (hmsg : msg = firstMsg + pre.length) : MessageAt p msg g := by
  obtain ⟨htype, hlen, hn, -⟩ := message_reads hv h.1 hmsg
  obtain ⟨hfvl, -, hnum⟩ := message_header hv h.1 hmsg
  obtain ⟨-, hthree, hfour, hend⟩ := message_parts hv h.1 hmsg
  have hfew := hv.few
  have hlist := hv.listLength_eq
  have hgfour : (hasFourpackedEvents g.attr = true) = (g.attr = .listener) := by
    simp [hasFourpackedEvents]
  refine ⟨?_, hn, ?_, ?_, ?_, ?_, ?_⟩
  · rw [htype]
    cases g.attr <;> rfl
  · rw [hlen, hn, hlist]
    simp only [hgfour]
  · rw [hlen, hfvl, hnum, hlist, vectorLen, threepackedLen, fourpackedLen]
  · rw [hlen]
    refine ⟨hend.1, ?_⟩
    have hlast := hend.2.1
    rwa [show msg + 4 + g.listLength - 2 + 1 = msg + 4 + g.listLength - 1 by
      rw [hlist]; omega] at hlast
  · intro i hi
    have hdecode := (decode_octetsOf (by omega) (by omega) (by decide) g.events_lt hthree
      (by rwa [g.length_events])).2
    rw [decodeThreepacked, hdecode, Message.events, List.getD_eq_getElem?_getD, List.getElem?_map,
      List.getElem?_eq_getElem hi]
    rfl
  · intro hlistener i hi
    have hg : hasFourpackedEvents g.attr = true := by rw [hgfour]; exact hlistener
    have hdecode := (decode_octetsOf (by omega) (by omega) (by decide) g.parameters_lt hfour
      (by rwa [Message.length_parameters hg])).2
    rw [decodeFourpacked, hdecode, Message.parameters, if_pos hg, List.getD_eq_getElem?_getD,
      List.getElem?_replicate, if_pos hi]
    rfl

/-- Stepping over the messages reads the list of messages off the buffer. -/
theorem laid_of_rep : ∀ (gs done : List Message), (∀ g ∈ gs, g.Valid) → Rep p (done ++ gs) →
    Laid p (firstMsg + (pduOctets done).length) gs := by
  intro gs
  induction gs with
  | nil =>
    intro done _ hrep
    rw [Rep, List.append_nil] at hrep
    exact hrep.2.symm
  | cons g gs ih =>
    intro done hvalid hrep
    have hv := hvalid g List.mem_cons_self
    have hregion : Region p (pduOctets done ++ g.octets ++ pduOctets gs) := by
      rw [List.append_assoc, ← pduOctets_cons, ← pduOctets_append]
      exact hrep
    refine ⟨messageAt_of_region hv hregion rfl, ?_⟩
    have hrest := ih (done ++ [g]) (fun r hr => hvalid r (List.mem_cons_of_mem g hr))
      (by simpa using hrep)
    rw [(message_reads hv hregion.1 rfl).2.1]
    simpa [Message.length_octets, Nat.add_assoc] using hrest

/-- The addresses that stepping goes through are those of the messages. -/
theorem msgAt_iff (hvalid : ∀ g ∈ gs, g.Valid) (hrep : Rep p gs) :
    MsgAt p msg ↔ ∃ a g b, gs = a ++ g :: b ∧ msg = firstMsg + (pduOctets a).length := by
  have hstep : ∀ {a g b}, gs = a ++ g :: b →
      firstMsg + (pduOctets a).length + 4 +
        attributeLengthLength p.sendBuf (firstMsg + (pduOctets a).length) =
          firstMsg + (pduOctets (a ++ [g])).length := by
    intro a g b hgs
    have hregion : Region p (pduOctets a ++ g.octets ++ pduOctets b) := by
      rw [List.append_assoc, ← pduOctets_cons, ← pduOctets_append, ← hgs]
      exact hrep
    rw [(message_reads (hvalid g (by simp [hgs])) hregion.1 rfl).2.1]
    simp [Message.length_octets]
    omega
  constructor
  · intro hat
    induction hat with
    | first hlt =>
      rcases gs with _ | ⟨g, gs⟩
      · have hptr := hrep.2
        simp at hptr
        omega
      · exact ⟨[], g, gs, rfl, rfl⟩
    | next _ hlt ih =>
      obtain ⟨a, g, b, hgs, rfl⟩ := ih
      rw [hstep hgs] at hlt ⊢
      rcases b with _ | ⟨r, b⟩
      · -- behind the last message there is nothing
        have hptr := hrep.2
        rw [hgs] at hptr
        omega
      · exact ⟨a ++ [g], r, b, by simp [hgs], rfl⟩
  · rintro ⟨a, g, b, hgs, rfl⟩
    induction a using List.reverseRecOn generalizing g b with
    | nil =>
      refine MsgAt.first ?_
      rw [hrep.2, hgs]
      simp [Message.length_octets]
    | append_singleton a r ih =>
      have hgs' : gs = a ++ r :: g :: b := by simpa using hgs
      have hlt : firstMsg + (pduOctets (a ++ [r])).length < p.sendPtr := by
        rw [hrep.2, hgs]
        simp [Message.length_octets]
      rw [← hstep hgs'] at hlt ⊢
      exact MsgAt.next (ih r (g :: b) hgs') hlt

/-- No message of the buffer is full exactly when every message can take one more value. -/
theorem noneFull_iff (hvalid : ∀ g ∈ gs, g.Valid) (hrep : Rep p gs) : NoneFull p ↔ Room gs := by
  have hvalues : ∀ {a g b}, gs = a ++ g :: b →
      numberOfValuesLow p.sendBuf (firstMsg + (pduOctets a).length) = g.members.length := by
    intro a g b hgs
    have hregion : Region p (pduOctets a ++ g.octets ++ pduOctets b) := by
      rw [List.append_assoc, ← pduOctets_cons, ← pduOctets_append, ← hgs]
      exact hrep
    exact (message_reads (hvalid g (by simp [hgs])) hregion.1 rfl).2.2.1
  constructor
  · intro hnone g hg
    obtain ⟨a, b, hgs⟩ := List.append_of_mem hg
    refine ⟨hvalid g hg, ?_⟩
    rw [← hvalues hgs]
    exact hnone _ ((msgAt_iff hvalid hrep).mpr ⟨a, g, b, hgs, rfl⟩)
  · intro hroom msg hat
    obtain ⟨a, g, b, hgs, rfl⟩ := (msgAt_iff hvalid hrep).mp hat
    rw [hvalues hgs]
    exact (hroom g (by simp [hgs])).2

end Layout

/-! ### Runs of `doTx` calls -/

section Run

variable {signed : Bool} {m : Mem} {calls : List Decl} {p q : SendBuffer} {gs : List Message}

theorem rep_nil : Rep ⟨m, firstMsg⟩ [] := ⟨trivial, rfl⟩

/-- One call: the buffer holds the messages that `addDecl` gives. -/
theorem doTxCall_rep {d : Decl} (hroom : Room gs) (hrep : Rep p gs)
    (h : doTxCall signed p d = some q) : Rep q (addDecl signed gs d) := by
  obtain ⟨r, hr, heq⟩ := doTx_region signed d hroom hrep
  rw [doTxCall, heq] at h
  split at h
  · rw [Option.some_inj] at h
    exact h ▸ hr
  · simp at h

/-- A run of calls during which no message becomes full. -/
theorem run_rep : ∀ {calls : List Decl} {p : SendBuffer} {gs : List Message}, Room gs → Rep p gs →
    Runs.run (doTxCall signed) p calls = some q → Runs.Throughout (doTxCall signed) NoneFull p calls →
    (∀ g ∈ calls.foldl (addDecl signed) gs, g.Valid) ∧ Rep q (calls.foldl (addDecl signed) gs) := by
  intro calls
  induction calls with
  | nil =>
    intro p gs hroom hrep hrun _
    rw [Runs.run_nil, Option.some_inj] at hrun
    subst hrun
    exact ⟨fun g hg => (hroom g hg).1, hrep⟩
  | cons d calls ih =>
    intro p gs hroom hrep hrun hfull
    obtain ⟨t, ht, hrest⟩ := Runs.run_cons_eq_some.mp hrun
    have hfull' := (Runs.throughout_cons.mp hfull).2 t ht
    have hrep' := doTxCall_rep hroom hrep ht
    have hroom' : Room (addDecl signed gs d) :=
      (noneFull_iff (addDecl_valid hroom) hrep').mp (hfull' [] t List.nil_prefix Runs.run_nil)
    exact ih hroom' hrep' hrest hfull'

theorem startMessage_members {d : Decl} (hd : d.attr ≠ .talkerFailed) :
    (startMessage signed d).members = [d] := by
  rw [startMessage, if_pos ⟨rfl, hd, Or.inl rfl⟩]
  rfl

/-- Every declaration becomes a member of exactly one message, and the members of a message
are in the order of the calls. -/
theorem messages_members (signed : Bool) (htypes : ∀ d ∈ calls, d.attr ≠ .talkerFailed) :
    ((messages signed calls).flatMap Message.members).Perm calls ∧
      ∀ g ∈ messages signed calls, g.members.Sublist calls := by
  induction calls using List.reverseRecOn with
  | nil => exact ⟨List.Perm.refl _, by simp [messages]⟩
  | append_singleton calls d ih =>
    obtain ⟨hperm, hsub⟩ := ih fun e he => htypes e (by simp [he])
    have hd := htypes d (by simp)
    have hleft : ∀ g ∈ messages signed calls, g.members.Sublist (calls ++ [d]) := fun g hg =>
      (hsub g hg).trans (List.sublist_append_left calls [d])
    rw [messages_snoc]
    rcases addDecl_cases signed (messages signed calls) d with
      ⟨a, g, b, hgs, -, -, heq⟩ | ⟨-, heq⟩
    · -- merged into the message `g`
      rw [heq]
      constructor
      · rw [hgs] at hperm
        simp only [List.flatMap_append, List.flatMap_cons] at hperm ⊢
        have hmove : ((g.add d).members ++ b.flatMap Message.members).Perm
            (g.members ++ b.flatMap Message.members ++ [d]) := by
          rw [Message.add, List.append_assoc, List.append_assoc]
          exact List.Perm.append_left _ List.perm_append_comm
        have hall := (List.Perm.append_left (a.flatMap Message.members) hmove)
        exact hall.trans (by simpa using hperm.append_right [d])
      · intro r hr
        rcases List.mem_append.mp hr with hr | hr
        · exact hleft r (by simp [hgs, hr])
        · rcases List.mem_cons.mp hr with rfl | hr
          · exact (hsub g (by simp [hgs])).append (List.Sublist.refl [d])
          · exact hleft r (by simp [hgs, hr])
    · -- a new message
      rw [heq]
      constructor
      · rw [List.flatMap_append, List.flatMap_singleton, startMessage_members hd]
        exact hperm.append_right [d]
      · intro r hr
        rcases List.mem_append.mp hr with hr | hr
        · exact hleft r hr
        · rw [List.mem_singleton.mp hr, startMessage_members hd]
          exact List.sublist_append_right calls [d]

/-- A call makes the PDU longer by one message at most, and no message by more than one
value. -/
theorem addDecl_growth (signed : Bool) (d : Decl) {n : ℕ} (hroom : Room gs)
    (hn : ∀ g ∈ gs, g.members.length ≤ n) :
    (pduOctets (addDecl signed gs d)).length ≤ (pduOctets gs).length + 44 ∧
      ∀ g ∈ addDecl signed gs d, g.members.length ≤ n + 1 := by
  have hvalid : ∀ g ∈ addDecl signed gs d, g.Valid := addDecl_valid hroom
  rcases addDecl_cases signed gs d with ⟨a, g, b, hgs, -, hj, heq⟩ | ⟨-, heq⟩
  · rw [heq] at hvalid ⊢
    have hold := (hroom g (by simp [hgs])).1.listLength_eq
    have hnew := (hvalid (g.add d) (by simp)).listLength_eq
    have hlen : (g.add d).members.length = g.members.length + 1 := by simp [Message.add]
    have hle : (g.add d).listLength ≤ g.listLength + 2 := by
      rw [hold, hnew, hlen, show (g.add d).attr = g.attr from rfl]
      split <;> omega
    constructor
    · simp only [hgs, pduOctets_append, pduOctets_cons, List.length_append, Message.length_octets]
      omega
    · intro r hr
      have hg := hn g (by simp [hgs])
      rcases List.mem_append.mp hr with hr | hr
      · exact (hn r (by simp [hgs, hr])).trans (Nat.le_succ n)
      · rcases List.mem_cons.mp hr with rfl | hr
        · omega
        · exact (hn r (by simp [hgs, hr])).trans (Nat.le_succ n)
  · rw [heq]
    have hstart := (startMessage_valid signed d).listLength_eq
    have hfirst := Message.firstValueLengths_le (startMessage signed d).attr
    have hlen : (startMessage signed d).members.length ≤ 1 := by
      rw [startMessage]
      split <;> simp [Message.add, Message.empty]
    constructor
    · rw [pduOctets_append, pduOctets_cons, pduOctets_nil, List.append_nil, List.length_append,
        Message.length_octets, hstart]
      split <;> omega
    · intro r hr
      rcases List.mem_append.mp hr with hr | hr
      · exact (hn r hr).trans (Nat.le_succ n)
      · rw [List.mem_singleton.mp hr]
        omega

/-- A few calls always fit the buffer, and fill no message. -/
theorem run_of_few (signed : Bool) : ∀ (calls : List Decl) {p : SendBuffer} {gs : List Message} {n : ℕ},
    Rep p gs → (∀ g ∈ gs, g.Valid ∧ g.members.length ≤ n) → n + calls.length < 255 →
    p.sendPtr + 44 * calls.length ≤ mrpSendBufferSize →
    ∃ q, Runs.run (doTxCall signed) p calls = some q ∧ Rep q (calls.foldl (addDecl signed) gs) ∧
      Runs.Throughout (doTxCall signed) NoneFull p calls ∧
      q.sendPtr ≤ p.sendPtr + 44 * calls.length := by
  intro calls
  induction calls with
  | nil =>
    intro p gs n hrep hgs hn _
    have hroom : Room gs := fun g hg => ⟨(hgs g hg).1, by have := (hgs g hg).2; omega⟩
    exact ⟨p, rfl, hrep, Runs.throughout_nil.mpr ((noneFull_iff (fun g hg => (hgs g hg).1) hrep).mpr
      hroom), le_rfl⟩
  | cons d calls ih =>
    intro p gs n hrep hgs hn hfit
    rw [List.length_cons] at hn hfit
    have hroom : Room gs := fun g hg => ⟨(hgs g hg).1, by have := (hgs g hg).2; omega⟩
    obtain ⟨hlong, hmany⟩ := addDecl_growth signed d hroom fun g hg => (hgs g hg).2
    obtain ⟨t, ht, heq⟩ := doTx_region signed d hroom hrep
    have hptr : t.sendPtr ≤ p.sendPtr + 44 := by
      rw [ht.2, hrep.2]
      omega
    have hstep : doTxCall signed p d = some t := by
      rw [doTxCall, heq, if_pos (by omega)]
    obtain ⟨q, hq, hrepq, hfull, hlen⟩ := ih (n := n + 1) ht
      (fun g hg => ⟨addDecl_valid hroom g hg, hmany g hg⟩) (by omega) (by omega)
    refine ⟨q, Runs.run_cons_eq_some.mpr ⟨t, hstep, hq⟩, hrepq, Runs.throughout_cons.mpr ⟨?_, ?_⟩,
      by rw [List.length_cons]; omega⟩
    · exact (noneFull_iff (fun g hg => (hgs g hg).1) hrep).mpr hroom
    · intro t' ht'
      rw [hstep, Option.some_inj] at ht'
      exact ht' ▸ hfull

/-- After every sequence of `doTx` calls for Talker Advertise, Listener and Domain machines
that fits the buffer, with no message reaching 255 values: the messages lie one behind the
other up to `send_ptr`, each with the lengths, the end mark and the packed events of its
members, and the members of the messages together are the calls, in order in each message. -/
theorem pdu_wellFormed (htypes : ∀ d ∈ calls, d.attr ≠ .talkerFailed)
    (hrun : Runs.run (doTxCall signed) ⟨m, firstMsg⟩ calls = some p)
    (hfull : Runs.Throughout (doTxCall signed) NoneFull ⟨m, firstMsg⟩ calls) :
    Laid p firstMsg (messages signed calls) ∧
      ((messages signed calls).map fun g => g.members.length).sum = calls.length ∧
      ((messages signed calls).flatMap Message.members).Perm calls ∧
      ∀ g ∈ messages signed calls, g.members.Sublist calls := by
  obtain ⟨hvalid, hrep⟩ := run_rep (by simp [Room]) rep_nil hrun hfull
  obtain ⟨hperm, hsub⟩ := messages_members signed htypes
  refine ⟨laid_of_rep _ [] hvalid hrep, ?_, hperm, hsub⟩
  rw [← hperm.length_eq, List.length_flatMap]

/-- Two Talkers that share a message, a Listener and a Domain. -/
theorem pdu_wellFormed_four :
    let talker : Decl := ⟨.talkerAdvertise, .zero, .joinIn, 0⟩
    let listener : Decl := ⟨.listener, .zero, .new, 2⟩
    let domain : Decl := ⟨.domainVector, .zero, .lv, 0⟩
    let calls := [talker, listener, domain, talker]
    ∃ p, Runs.run (doTxCall true) ⟨fun _ => 0, firstMsg⟩ calls = some p ∧
      Laid p firstMsg (messages true calls) ∧
      ((messages true calls).map fun g => g.members.length).sum = calls.length ∧
      ((messages true calls).flatMap Message.members).Perm calls ∧
      ∀ g ∈ messages true calls, g.members.Sublist calls := by
  intro talker listener domain calls
  have hempty : Rep ⟨fun _ => 0, firstMsg⟩ [] := rep_nil
  obtain ⟨p, hrun, -, hfull, -⟩ := run_of_few true calls (n := 0) hempty (by simp) (by decide)
    (by decide)
  have htypes : ∀ d ∈ calls, d.attr ≠ .talkerFailed := by
    simp [calls, talker, listener, domain]
  exact ⟨p, hrun, pdu_wellFormed htypes hrun hfull⟩

end Run

end Msrp
