/-
Encoding attribute declarations and reading them back.

A list of declarations is encoded by successive `doTx` calls, sent, and taken apart by the
receive loops.  `RoundTrip` says that what comes out is what went in, as multisets, and
`roundTrip_iff_readable` makes this a matter of the messages and of what is read at their
places: of a StreamID only the lowest octets of the words of the first value's one are
left (`wireID`), an octet of packed events is misread where it is taken for a negative
number (`rx_event`), and a Listener is read as ready (`rx_parameter`).
-/
import AvbSwitch.PduParse

namespace Msrp

open Octets Packed

/-! ### From the buffer to the receiver -/

/-- What a receiver gets out of the frame that `mrp_pdu_ex_send` sends, the Ethernet header
being taken off. -/
def sentItems (signed : Bool) (p : SendBuffer) : List RxItem :=
  match mrpPduExSend p with
  | some (some (m, len), _) => rxItems signed (fun k => m (14 + k)) (len - 14)
  | _ => []

/-- The declarations are encoded, and parsing the PDU gives back what they say. -/
def RoundTrip (signed : Bool) (m : Mem) (calls : List Decl) : Prop :=
  ∃ p, Runs.run (doTxCall signed) ⟨m, firstMsg⟩ calls = some p ∧
    ((sentItems signed p).filterMap (RxItem.carried signed)).Perm (calls.map Decl.carried)

section Sent

variable {signed : Bool} {p : SendBuffer} {gs : List Message}

theorem sentItems_of_rep (signed : Bool) (hfit : p.sendPtr + 8 ≤ mrpSendBufferSize)
    (hgs : ∀ g ∈ gs, g.Valid ∧ ZeroIfEmpty g) (hrep : Rep p gs) :
    (sentItems signed p).filterMap (RxItem.carried signed) =
      (places (readable gs)).map (Place.rx signed) := by
  obtain ⟨hmem, hptr⟩ := hrep
  have hcount := length_le_pduOctets gs
  rw [sentItems]
  by_cases hempty : p.sendPtr = firstMsg
  · -- nothing is sent from an empty buffer
    have hnil : gs = [] := List.length_eq_zero_iff.mp (by omega)
    subst hnil
    rw [mrpPduExSend, if_neg (not_not_intro hempty)]
    rfl
  · rw [mrpPduExSend_eq hempty hfit]
    set fin := max (p.sendPtr + 4) 64 with hfin
    have hge : p.sendPtr + 4 ≤ fin := le_max_left _ _
    have hframe : Holds (fun k => fill (fill p.sendBuf p.sendPtr 0 (fin - p.sendPtr)) fin 0x55 4
        (14 + k)) 1 (pduOctets ([] ++ gs) ++ [0, 0]) := by
      have hfill : Holds (fill p.sendBuf p.sendPtr 0 (fin - p.sendPtr)) firstMsg
          (pduOctets gs ++ [0, 0]) := by
        rw [holds_append, ← hptr]
        refine ⟨hmem.putList_off (Or.inr (by omega)), ?_⟩
        obtain ⟨k, hk⟩ : ∃ k, fin - p.sendPtr = 2 + k := ⟨fin - p.sendPtr - 2, by omega⟩
        have hzeros : Holds (fill p.sendBuf p.sendPtr 0 (fin - p.sendPtr)) p.sendPtr
            (List.replicate (fin - p.sendPtr) 0) := holds_putList
        rw [hk, List.replicate_add, holds_append] at hzeros
        rw [hk]
        exact hzeros.1
      -- what is stored behind the frame does not reach it
      have hbehind : Holds (fill (fill p.sendBuf p.sendPtr 0 (fin - p.sendPtr)) fin 0x55 4)
          firstMsg (pduOctets gs ++ [0, 0]) := by
        refine hfill.putList_off (Or.inr ?_)
        rw [List.length_append, List.length_cons, List.length_singleton]
        omega
      refine hbehind.moved fun k _ => ?_
      rw [firstMsg, ← Nat.add_assoc]
    have hfirst : firstMsg = 15 := rfl
    exact messageLoop_pdu signed (fin + 4 - 14) gs [] (fin + 4 - 14 + 1) hgs hframe
      (by simp; omega) (by omega)

end Sent

/-! ### The messages of a list of declarations -/

/-- The word pair that is left of a StreamID in a first value. -/
def wireID (id : UInt32 × UInt32) : UInt32 × UInt32 := (id.1 <<< 24, id.2 <<< 24)

/-- The StreamID that value `i` of a vector with this first StreamID is given. -/
def wireSuccessor (id : UInt32 × UInt32) (i : ℕ) : UInt32 × UInt32 :=
  ((wireID id).1, (wireID id).2 + UInt32.ofNat i)

/-- How a message has come about: it is what a Talker Failed leaves, or its first member
gave the first value and the others passed the check when they were merged. -/
def Message.Formed (signed : Bool) (g : Message) : Prop :=
  g = Message.empty .talkerFailed ∨
    ∃ s rest, g = ⟨s.attr, s.firstValue, s :: rest⟩ ∧ s.attr ≠ .talkerFailed ∧
      ∀ i d, rest[i]? = some d → d.attr = s.attr ∧
        Message.check signed ⟨s.attr, s.firstValue, (s :: rest).take (i + 1)⟩ d = true

section Formed

variable {signed : Bool} {g : Message} {gs : List Message} {d : Decl} {calls : List Decl}

theorem Message.check_congr {first : List UInt8} {attr : AttributeType} {l l' : List Decl}
    (h : l.length = l'.length) :
    Message.check signed ⟨attr, first, l⟩ d = Message.check signed ⟨attr, first, l'⟩ d := by
  simp only [Message.check, h]

theorem Message.Formed.zeroIfEmpty (h : g.Formed signed) : ZeroIfEmpty g := by
  rcases h with rfl | ⟨s, rest, rfl, -, -⟩
  · exact fun _ => rfl
  · exact fun hnil => absurd hnil (List.cons_ne_nil s rest)

theorem Message.Formed.add (h : g.Formed signed) (hj : g.Joins signed d) :
    (g.add d).Formed signed := by
  obtain ⟨hattr, hd, hor⟩ := hj
  rcases h with rfl | ⟨s, rest, rfl, hs, hrest⟩
  · exact absurd hattr.symm hd
  · have hcheck := hor.resolve_left (List.cons_ne_nil s rest)
    refine Or.inr ⟨s, rest ++ [d], ?_, hs, fun i e he => ?_⟩
    · rw [add_eq (List.cons_ne_nil s rest)]
      rfl
    · by_cases hi : i < rest.length
      · rw [List.getElem?_append_left hi] at he
        obtain ⟨h1, h2⟩ := hrest i e he
        refine ⟨h1, ?_⟩
        rw [← h2]
        exact Message.check_congr (by simp; omega)
      · -- the new member
        have hie : i = rest.length := by
          have := (List.getElem?_eq_some_iff.mp he).1
          simp at this
          omega
        subst hie
        rw [List.getElem?_concat_length, Option.some_inj] at he
        subst he
        refine ⟨hattr.symm, ?_⟩
        rw [← hcheck]
        exact Message.check_congr (by simp)

theorem startMessage_formed : (startMessage signed d).Formed signed := by
  rw [startMessage]
  by_cases hd : d.attr = .talkerFailed
  · rw [if_neg (fun hj => hj.2.1 hd), hd]
    exact Or.inl rfl
  · rw [if_pos ⟨rfl, hd, Or.inl rfl⟩]
    exact Or.inr ⟨d, [], rfl, hd, by simp⟩

/-- Every message of the PDU has come about in this way. -/
theorem messages_formed (signed : Bool) (calls : List Decl) :
    ∀ g ∈ messages signed calls, g.Formed signed := by
  induction calls using List.reverseRecOn with
  | nil => simp [messages]
  | append_singleton calls d ih =>
    rw [messages_snoc]
    rcases addDecl_cases signed (messages signed calls) d with ⟨a, g, b, hgs, -, hj, heq⟩ | ⟨-, heq⟩
    · rw [heq]
      intro r hr
      rcases List.mem_append.mp hr with hr | hr
      · exact ih r (by simp [hgs, hr])
      · rcases List.mem_cons.mp hr with rfl | hr
        · exact (ih g (by simp [hgs])).add hj
        · exact ih r (by simp [hgs, hr])
    · rw [heq]
      intro r hr
      rcases List.mem_append.mp hr with hr | hr
      · exact ih r hr
      · rw [List.mem_singleton.mp hr]
        exact startMessage_formed

/-- A few declarations are encoded without a message becoming full or the buffer too small. -/
theorem messages_of_few (signed : Bool) (m : Mem) (h : calls.length ≤ 24) :
    ∃ p, Runs.run (doTxCall signed) ⟨m, firstMsg⟩ calls = some p ∧ Rep p (messages signed calls) ∧
      (∀ g ∈ messages signed calls, g.Valid) ∧ p.sendPtr + 8 ≤ mrpSendBufferSize := by
  have hempty : Rep ⟨m, firstMsg⟩ [] := rep_nil
  obtain ⟨p, hrun, hrep, hfull, hlen⟩ := run_of_few signed calls (n := 0) hempty (by simp)
    (by omega) (by simp only [mrpSendBufferSize, firstMsg]; omega)
  refine ⟨p, hrun, hrep, (run_rep (by simp [Room]) hempty hrun hfull).1, ?_⟩
  simp only [firstMsg, mrpSendBufferSize] at hlen ⊢
  omega

/-- The round trip is a matter of the messages and what is read at their places. -/
theorem roundTrip_iff_readable (m : Mem) (h : calls.length ≤ 24) :
    RoundTrip signed m calls ↔
      ((places (readable (messages signed calls))).map (Place.rx signed)).Perm
        (calls.map Decl.carried) := by
  obtain ⟨p, hrun, hrep, hvalid, hfit⟩ := messages_of_few signed m h
  have hsent := sentItems_of_rep signed hfit
    (fun g hg => ⟨hvalid g hg, (messages_formed signed calls g hg).zeroIfEmpty⟩) hrep
  rw [← hsent]
  constructor
  · rintro ⟨q, hq, hperm⟩
    rw [hrun, Option.some_inj] at hq
    exact hq ▸ hperm
  · exact fun hperm => ⟨p, hrun, hperm⟩

end Formed

/-! ### What is read at a place -/

section Wire

variable {signed : Bool} {info : StreamInfo} {fv : ℕ → UInt8}

theorem charWord_mod (x : UInt8) : (charWord signed x).toNat % 256 = x.toNat := by
  have hx : x.toNat < 256 := x.toNat_lt
  rw [charWord, charVal, toNat_ofInt]
  split <;> omega

/-- A word all of whose octets but the highest are zero. -/
theorem shiftIn_high {w : UInt32} {v : UInt32} (h : v.toNat % 256 = w.toNat % 256) :
    shiftIn v 0 0 0 = w <<< 24 := by
  rw [← UInt32.toNat_inj, shiftIn_toNat, UInt32.toNat_shiftLeft]
  simp [Nat.shiftLeft_eq]
  omega

theorem lowOctet_toNat (w : UInt32) : (lowOctet w).toNat = w.toNat % 256 := by
  rw [lowOctet, UInt8.toNat_ofNat']

theorem lowOctet_shiftLeft (w : UInt32) :
    lowOctet (w <<< 0) = lowOctet w ∧ lowOctet (w <<< 8) = 0 ∧ lowOctet (w <<< 16) = 0 ∧
      lowOctet (w <<< 24) = 0 := by
  refine ⟨?_, ?_, ?_, ?_⟩
  · rw [← UInt8.toNat_inj, lowOctet_toNat, lowOctet_toNat]
    simp
  all_goals
    rw [← UInt8.toNat_inj, lowOctet_toNat, UInt32.toNat_shiftLeft]
    simp [Nat.shiftLeft_eq] <;> omega

/-- The octets of a StreamID in a first value. -/
theorem streamIdOctets_eq (info : StreamInfo) :
    streamIdOctets info = [lowOctet info.id0, 0, 0, 0, lowOctet info.id1, 0, 0, 0] := by
  obtain ⟨h0, h8, h16, h24⟩ := lowOctet_shiftLeft info.id0
  obtain ⟨k0, k8, k16, k24⟩ := lowOctet_shiftLeft info.id1
  rw [streamIdOctets, h0, h8, h16, h24, k0, k8, k16, k24]

theorem wireStreamID_eq (hfv : ∀ j < 8, fv j = (streamIdOctets info).getD j 0) (i : ℕ) :
    wireStreamID signed fv i = wireSuccessor info.streamID i := by
  have hzero : charWord signed 0 = 0 := by cases signed <;> rfl
  rw [streamIdOctets_eq] at hfv
  simp only [wireStreamID, hfv 0 (by omega), hfv 1 (by omega), hfv 2 (by omega), hfv 3 (by omega),
    hfv 4 (by omega), hfv 5 (by omega), hfv 6 (by omega), hfv 7 (by omega), List.getD_cons_zero,
    List.getD_cons_succ, hzero]
  have hhigh : ∀ w, (charWord signed (lowOctet w)).toNat % 256 = w.toNat % 256 := fun w => by
    rw [charWord_mod, lowOctet_toNat]
  rw [shiftIn_high (hhigh info.id0), shiftIn_high (hhigh info.id1)]
  rfl

theorem firstValueStreamID_eq (hfv : ∀ j < 8, fv j = (streamIdOctets info).getD j 0) :
    firstValueStreamID fv = wireID info.streamID := by
  have hzero : octetWord 0 = 0 := rfl
  rw [streamIdOctets_eq] at hfv
  simp only [firstValueStreamID, hfv 0 (by omega), hfv 1 (by omega), hfv 2 (by omega),
    hfv 3 (by omega), hfv 4 (by omega), hfv 5 (by omega), hfv 6 (by omega), hfv 7 (by omega),
    List.getD_cons_zero, List.getD_cons_succ, hzero]
  have hhigh : ∀ w, (octetWord (lowOctet w)).toNat % 256 = w.toNat % 256 := fun w => by
    rw [octetWord_toNat, lowOctet_toNat, Nat.mod_mod]
  rw [shiftIn_high (hhigh info.id0), shiftIn_high (hhigh info.id1)]
  rfl

/-- The first value of a stream's message starts with the octets of its StreamID. -/
theorem Decl.firstValue_getD (d : Decl) (hd : d.attr = .talkerAdvertise ∨ d.attr = .listener) :
    ∀ j < 8, d.firstValue.getD j 0 = (streamIdOctets d.info).getD j 0 := by
  intro j hj
  rw [Decl.firstValue]
  rcases hd with hd | hd
  · rw [hd]
    simp only [talkerFirstValue, List.append_assoc]
    rw [List.getD_eq_getElem?_getD, List.getElem?_append_left (by simpa using hj),
      List.getD_eq_getElem?_getD]
  · rw [hd]

end Wire

/-- The StreamID that value `i` of a vector of these declarations is given. -/
def vectorID (v : List Decl) (i : ℕ) : UInt32 × UInt32 :=
  match v with
  | [] => (0, 0)
  | s :: _ => wireSuccessor s.info.streamID i

/-- The StreamID that is read at a place. -/
def Place.wireID (x : Place) : UInt32 × UInt32 := vectorID x.message.members x.index

section Read

variable {signed : Bool} {gs : List Message} {x : Place}

/-- Where a place can be: in a message with a first member. -/
theorem place_formed (hgs : ∀ g ∈ gs, g.Formed signed) (hx : x ∈ places gs) :
    ∃ s rest, x.message = ⟨s.attr, s.firstValue, s :: rest⟩ ∧ s.attr ≠ .talkerFailed ∧
      x.member.attr = s.attr ∧ (s :: rest)[x.index]? = some x.member ∧
      ∀ k, x.index = k + 1 →
        Message.check signed ⟨s.attr, s.firstValue, (s :: rest).take (k + 1)⟩ x.member = true := by
  obtain ⟨hmem, hget⟩ := mem_places.mp hx
  rcases hgs _ hmem with heq | ⟨s, rest, heq, hs, hrest⟩
  · rw [heq] at hget
    simp [Message.empty] at hget
  · rw [heq] at hget
    refine ⟨s, rest, heq, hs, ?_, hget, fun k hk => ?_⟩
    · rcases hi : x.index with _ | k
      · rw [hi, List.getElem?_cons_zero, Option.some_inj] at hget
        rw [← hget]
      · rw [hi, List.getElem?_cons_succ] at hget
        exact (hrest k _ hget).1
    · rw [hk, List.getElem?_cons_succ] at hget
      exact (hrest k _ hget).2

theorem Place.wireID_eq {s : Decl} {rest : List Decl}
    (h : x.message = ⟨s.attr, s.firstValue, s :: rest⟩) :
    x.wireID = wireSuccessor s.info.streamID x.index := by
  rw [Place.wireID, h]
  rfl

/-- Type and StreamID read at a place. -/
theorem rx_attr_streamID (hgs : ∀ g ∈ gs, g.Formed signed) (hx : x ∈ places gs) :
    (x.rx signed).attr = x.member.attr ∧
      (x.rx signed).streamID = if x.member.attr.IsStream then some x.wireID else none := by
  obtain ⟨s, rest, heq, hs, hattr, -, -⟩ := place_formed hgs hx
  rw [Place.rx, rxAt, Place.wireID_eq heq, heq, hattr]
  refine ⟨rfl, ?_⟩
  by_cases hstream : s.attr.IsStream
  · have htypes : s.attr = .talkerAdvertise ∨ s.attr = .listener := by
      revert hs hstream
      cases s.attr <;> simp [AttributeType.IsStream]
    simp only [if_pos hstream]
    rw [wireStreamID_eq (s.firstValue_getD htypes)]
  · simp only [if_neg hstream]

/-- A Listener that was merged has exactly the StreamID that is read at its place. -/
theorem listener_wireID (hgs : ∀ g ∈ gs, g.Formed signed) (hx : x ∈ places gs)
    (hl : x.member.attr = .listener) (hi : x.index ≠ 0) : x.wireID = x.member.info.streamID := by
  obtain ⟨s, rest, heq, -, hattr, -, hcheck⟩ := place_formed hgs hx
  obtain ⟨k, hk⟩ : ∃ k, x.index = k + 1 := ⟨x.index - 1, by omega⟩
  have hlt := (mem_places.mp hx).2
  have hlen : k + 1 < (s :: rest).length := by
    rw [heq, hk] at hlt
    exact (List.getElem?_eq_some_iff.mp hlt).1
  have hc := hcheck k hk
  have hfv := firstValueStreamID_eq
    (s.firstValue_getD (Or.inr (hattr.symm.trans hl)))
  rw [Message.check, hl] at hc
  simp only [checkListenerMerge, hfv, List.length_take, decide_eq_true_eq,
    Nat.min_eq_left (Nat.le_of_lt hlen)] at hc
  rw [Place.wireID_eq heq, hk]
  exact Prod.ext hc.1 hc.2

theorem events_lt (g : Message) : ∀ e ∈ g.events, e < 6 := by
  intro e he
  obtain ⟨d, -, rfl⟩ := List.mem_map.mp he
  exact d.event.index_lt

theorem Place.events_getD (hget : x.message.members[x.index]? = some x.member) :
    x.message.events.getD x.index 0 = x.member.event.index := by
  rw [Message.events, List.getD_eq_getElem?_getD, List.getElem?_map, hget]
  rfl

/-- The octet of packed events that a place is read from. -/
def Place.eventOctet (x : Place) : ℕ := wordAt 6 3 x.message.events (x.index / 3)

theorem charVal_ofNat {n : ℕ} (hn : n < 256) :
    charVal signed (UInt8.ofNat n) = if signed ∧ 128 ≤ n then (n : ℤ) - 256 else n := by
  rw [charVal, UInt8.toNat_ofNat', Nat.mod_eq_of_lt hn]

theorem eventOctet_lt : x.eventOctet < 6 ^ 3 := wordAt_lt (by omega) (events_lt x.message) _

theorem rx_event_eq : (x.rx signed).event =
    decodePacked 6 3 (if signed ∧ 128 ≤ x.eventOctet then (x.eventOctet : ℤ) - 256
      else x.eventOctet) (x.index % 3) := by
  have hlt : x.eventOctet < 6 ^ 3 := eventOctet_lt
  rw [← charVal_ofNat (by omega)]
  rfl

/-- The event read at a place is the member's, if the octet is not taken for a negative
number. -/
theorem rx_event (hget : x.message.members[x.index]? = some x.member)
    (hsign : signed = true → x.eventOctet < 128) :
    (x.rx signed).event = x.member.event.index := by
  rw [rx_event_eq, if_neg, decodePacked_natCast, Nat.cast_inj, ← Place.events_getD hget,
    Place.eventOctet]
  · exact digit_pack (by omega) (by omega) (events_lt x.message) x.index
  · rintro ⟨hs, hge⟩
    have := hsign hs
    omega

/-- An octet that is taken for a negative number is read as events that are not positive. -/
theorem rx_event_nonpos (hs : signed = true) (hge : 128 ≤ x.eventOctet) :
    (x.rx signed).event ≤ 0 := by
  have hlt : x.eventOctet < 6 ^ 3 := eventOctet_lt
  rw [rx_event_eq, if_pos ⟨hs, hge⟩]
  exact decodePacked_nonpos (by omega)

theorem rx_event_le (hget : x.message.members[x.index]? = some x.member) :
    (x.rx signed).event ≤ x.member.event.index := by
  by_cases hsign : signed = true → x.eventOctet < 128
  · exact (rx_event hget hsign).le
  · simp only [not_forall, not_lt] at hsign
    obtain ⟨hs, hge⟩ := hsign
    have := rx_event_nonpos hs hge
    omega

/-- Every event is read back exactly when no octet of packed events is taken for a negative
number. -/
theorem rx_event_forall : (∀ x ∈ places gs, (x.rx signed).event = x.member.event.index) ↔
    (signed = true → ∀ g ∈ gs, ∀ j, wordAt 6 3 g.events j < 128) := by
  constructor
  · intro h hs g hg j
    by_contra hge
    have hlt : wordAt 6 3 g.events j < 6 ^ 3 := wordAt_lt (by omega) (events_lt g) _
    -- the first event of such an octet is three at least
    have hdigit : wordAt 6 3 g.events j / 6 ^ (3 - 1 - 0) % 6 = digits 3 g.events j 0 :=
      digit_word (by omega) (fun _ _ => digits_lt (by omega) (events_lt g) j _) (by omega)
    have hthree : 3 ≤ g.events.getD (j * 3) 0 := by
      rw [digits] at hdigit
      simp only [Nat.add_zero] at hdigit
      omega
    obtain ⟨d, hd⟩ : ∃ d, g.members[j * 3]? = some d := by
      rcases hget : g.members[j * 3]? with _ | d
      · rw [Message.events, List.getD_eq_getElem?_getD, List.getElem?_map, hget] at hthree
        simp at hthree
      · exact ⟨d, rfl⟩
    have hindex : j * 3 / 3 = j := by omega
    have hread := h ⟨g, d, j * 3⟩ (mem_places.mpr ⟨hg, hd⟩)
    have hnonpos : ((⟨g, d, j * 3⟩ : Place).rx signed).event ≤ 0 :=
      rx_event_nonpos hs (by rw [Place.eventOctet, hindex]; exact not_lt.mp hge)
    have hevent : g.events.getD (j * 3) 0 = d.event.index :=
      Place.events_getD (x := ⟨g, d, j * 3⟩) hd
    rw [hread] at hnonpos
    simp only at hnonpos
    omega
  · intro h x hx
    obtain ⟨hmem, hget⟩ := mem_places.mp hx
    exact rx_event hget fun hs => h hs _ hmem _

theorem parameters_lt (g : Message) : ∀ e ∈ g.parameters, e < 4 := by
  intro e he
  rw [Message.parameters] at he
  split at he
  · rw [List.eq_of_mem_replicate he]
    decide
  · simp at he

/-- What is read of the four-packed events at a place. -/
theorem rx_parameter (signed : Bool) (hattr : x.message.attr = x.member.attr)
    (hget : x.message.members[x.index]? = some x.member) :
    (x.member.attr ≠ .listener → (x.rx signed).parameter = none) ∧
      (x.member.attr = .listener → signed = false →
        (x.rx signed).parameter = some (fourPackedReady : ℤ)) ∧
      (x.member.attr = .listener → signed = true → x.index = 0 →
        ∃ z < 0, (x.rx signed).parameter = some z) := by
  have hlt : wordAt 4 4 x.message.parameters (x.index / 4) < 4 ^ 4 :=
    wordAt_lt (by omega) (parameters_lt x.message) _
  refine ⟨fun hl => ?_, fun hl hs => ?_, fun hl hs h0 => ?_⟩
  · rw [Place.rx, rxAt, hattr]
    exact if_neg (by simpa [hasFourpackedEvents] using hl)
  all_goals
    have hfour : hasFourpackedEvents x.message.attr = true := by
      rw [hattr, hl]
      rfl
    have hparam : x.message.parameters.getD x.index 0 = fourPackedReady := by
      have hidx : x.index < x.message.members.length := (List.getElem?_eq_some_iff.mp hget).1
      rw [Message.parameters, if_pos hfour, List.getD_eq_getElem?_getD,
        List.getElem?_replicate_of_lt hidx]
      rfl
    have hdigit := digit_pack (b := 4) (k := 4) (by omega) (by omega) (parameters_lt x.message)
      x.index
    rw [hparam] at hdigit
    rw [Place.rx, rxAt]
    simp only [if_pos hfour, charVal_ofNat (show wordAt 4 4 x.message.parameters (x.index / 4) < 256
      by omega), decodeFourpacked]
  · rw [if_neg (by simp [hs]), decodePacked_natCast, hdigit]
  · -- the first parameter of the octet makes it negative, and is read as negative
    rw [h0] at hdigit hlt ⊢
    set w := wordAt 4 4 x.message.parameters (0 / 4)
    have hquot : w / 64 % 4 = 2 := hdigit
    have hneg : (w : ℤ) - 256 = -((256 - w : ℕ) : ℤ) := by omega
    rw [if_pos ⟨hs, by omega⟩, hneg, decodePacked_neg, decodePacked_natCast]
    refine ⟨_, ?_, rfl⟩
    have hpos : 0 < (256 - w) / 64 % 4 := by omega
    norm_num
    omega

end Read

end Msrp
