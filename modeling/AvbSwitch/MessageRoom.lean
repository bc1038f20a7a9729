/-
The room that a message needs in the send buffer.

`doTx` merges a value into the first message that takes it, which costs an octet for each vector
whose last octet is full; if no message takes it, a new one is appended.  `messageRoom` counts these
octets from the buffer as it is before the call:

* `mergeMsg_grown`, `mergeMsg_of_not_takes` — one merge function;
* `mergeLoop_eq` — the loop over the messages, which leaves alone those it passes;
* `doTx_room` — what `doTx` does to `send_ptr`, and that it always writes.
-/
import AvbSwitch.PduLayout

namespace Msrp

open Octets

variable {signed : Bool} {p q : SendBuffer} {info : StreamInfo} {attr : AttributeType} {m m' : Mem}
  {d : Decl} {c : Bool} {buf b k n fin msg fuel : ℕ}

/-! ### One value more -/

/-- The octets by which a vector of `n` events, `k` to an octet, grows for one more. -/
def vectorGrowth (k n : ℕ) : ℕ := if n % k = 0 then 1 else 0

/-- The count that the second vector of a Listener goes by.  In a list that has no room for a vector
header the end mark has come over it. -/
def fourPackedCount (m : Mem) (buf : ℕ) : ℕ :=
  if numberOfValuesLow m buf % 3 = 0 ∧
      (attributeLengthLength m buf = 1 ∨ attributeLengthLength m buf = 2) then 0
  else numberOfValuesLow m buf

/-- The octets that one value more takes in the message at `buf`. -/
def valueGrowth (m : Mem) (buf : ℕ) (attr : AttributeType) : ℕ :=
  vectorGrowth 3 (numberOfValuesLow m buf) +
    if hasFourpackedEvents attr then vectorGrowth 4 (fourPackedCount m buf) else 0

/-- The value is in the message at `buf`. -/
structure Grown (p : SendBuffer) (buf : ℕ) (attr : AttributeType) (q : SendBuffer) : Prop where
  sendPtr : q.sendPtr = p.sendPtr + valueGrowth p.sendBuf buf attr
  count : q.sendBuf (buf + 5) = UInt8.ofNat (numberOfValuesLow p.sendBuf buf + 1)

theorem encodePackedEvent_sendPtr {vector event : ℕ} :
    (encodePackedEvent b k p buf vector event).sendPtr =
      p.sendPtr + vectorGrowth k (numberOfValuesLow p.sendBuf buf) := by
  rw [encodePackedEvent, vectorGrowth]
  dsimp only
  split
  · rfl
  · rfl

/-- The count after the event of the first vector has been stored. -/
theorem numberOfValuesLow_three {event : ℕ} :
    numberOfValuesLow (mrpEncodeThreePackedEvent p buf event attr).sendBuf buf =
      fourPackedCount p.sendBuf buf := by
  set v := buf + 4 + 2 + firstValueLengths attr + numberOfValuesLow p.sendBuf buf / 3 with hv
  have hlt : buf + 5 < v := by omega
  rw [mrpEncodeThreePackedEvent, ← hv, encodePackedEvent, numberOfValuesLow]
  dsimp only
  rw [put_other (by omega)]
  by_cases hopen : numberOfValuesLow p.sendBuf buf % 3 = 0
  · rw [if_pos hopen]
    dsimp only
    by_cases hshort : attributeLengthLength p.sendBuf buf = 1 ∨
        attributeLengthLength p.sendBuf buf = 2
    · -- the end mark comes over the count
      have hfour : fourPackedCount p.sendBuf buf = 0 := if_pos ⟨hopen, hshort⟩
      rw [hfour]
      rcases hshort with h1 | h2
      · rw [h1, show buf + 5 = buf + 4 + (1 + 1) - 2 + 1 by omega, put_same]
        rfl
      · rw [h2, show buf + 4 + (2 + 1) - 2 = buf + 5 by omega, put_other (by omega), put_same]
        rfl
    · have hfour : fourPackedCount p.sendBuf buf = numberOfValuesLow p.sendBuf buf :=
        if_neg fun hno => hshort hno.2
      rw [hfour, put_other (by omega), put_other (by omega), put2, put_other (by omega),
        put_other (by omega), put_other (by omega)]
      split
      · rw [mymemmove_apply, if_neg (by omega)]
        rfl
      · rfl
  · have hfour : fourPackedCount p.sendBuf buf = numberOfValuesLow p.sendBuf buf :=
      if_neg fun hno => hopen hno.1
    rw [hfour, if_neg hopen]
    rfl

theorem encodeValue_grown (hp : p.sendPtr = q.sendPtr)
    (hhead : ∀ k < buf + 6, p.sendBuf k = q.sendBuf k) :
    Grown q buf d.attr (encodeValue p buf d (numberOfValuesLow q.sendBuf buf)) := by
  have hcount : numberOfValuesLow p.sendBuf buf = numberOfValuesLow q.sendBuf buf := by
    rw [numberOfValuesLow, numberOfValuesLow, hhead _ (by omega)]
  have hlen : attributeLengthLength p.sendBuf buf = attributeLengthLength q.sendBuf buf := by
    rw [attributeLengthLength, attributeLengthLength, get2, get2, hhead _ (by omega),
      hhead _ (by omega)]
  have hfour : fourPackedCount p.sendBuf buf = fourPackedCount q.sendBuf buf := by
    rw [fourPackedCount, fourPackedCount, hcount, hlen]
  have hthree : (mrpEncodeThreePackedEvent p buf d.event.index d.attr).sendPtr =
      q.sendPtr + vectorGrowth 3 (numberOfValuesLow q.sendBuf buf) := by
    rw [mrpEncodeThreePackedEvent, encodePackedEvent_sendPtr, hcount, hp]
  refine ⟨?_, put_same⟩
  show (if hasFourpackedEvents d.attr then mrpEncodeFourPackedEvent
      (mrpEncodeThreePackedEvent p buf d.event.index d.attr) buf fourPackedReady d.attr
    else mrpEncodeThreePackedEvent p buf d.event.index d.attr).sendPtr = _
  rw [valueGrowth, ← Nat.add_assoc, ← hthree]
  split
  · rw [mrpEncodeFourPackedEvent, encodePackedEvent_sendPtr, numberOfValuesLow_three, hfour]
  · rfl

/-! ### The merge functions -/

/-- The answer of the check of each type. -/
def mergeCheck (signed : Bool) (info : StreamInfo) (attr : AttributeType) (m : Mem) (buf : ℕ) : Bool :=
  match attr with
  | .talkerAdvertise =>
    checkTalkerMerge signed info (firstValue m buf) (numberOfValuesLow m buf)
  | .listener => checkListenerMerge (firstValue m buf) (numberOfValuesLow m buf) info
  | .domainVector => checkDomainMerge
  | .talkerFailed => false

/-- The message at `buf` takes the value. -/
def TakesValue (signed : Bool) (info : StreamInfo) (attr : AttributeType) (m : Mem) (buf : ℕ) : Prop :=
  attr ≠ .talkerFailed ∧ m buf = UInt8.ofNat (encodeAttrType attr) ∧
    (numberOfValuesLow m buf = 0 ∨ mergeCheck signed info attr m buf = true)

instance : Decidable (TakesValue signed info attr m buf) := inferInstanceAs (Decidable (_ ∧ _ ∧ _))

theorem mergeValue_grown (hhead : ∀ k < buf + 6, m' k = p.sendBuf k) :
    (p.sendBuf buf = UInt8.ofNat (encodeAttrType d.attr) ∧
        (numberOfValuesLow p.sendBuf buf = 0 ∨ c = true) →
      (mergeValue p buf d c m').1 = true ∧ Grown p buf d.attr (mergeValue p buf d c m').2) ∧
    (¬ (p.sendBuf buf = UInt8.ofNat (encodeAttrType d.attr) ∧
        (numberOfValuesLow p.sendBuf buf = 0 ∨ c = true)) → mergeValue p buf d c m' = (false, p)) := by
  rw [mergeValue]
  constructor
  · rintro ⟨htype, htaken⟩
    rw [if_neg (not_not.mpr htype)]
    by_cases hzero : numberOfValuesLow p.sendBuf buf = 0
    · rw [if_pos hzero]
      exact ⟨rfl, encodeValue_grown rfl hhead⟩
    · rw [if_neg hzero, if_pos (htaken.resolve_left hzero)]
      exact ⟨rfl, encodeValue_grown rfl fun _ _ => rfl⟩
  · intro hnot
    by_cases htype : p.sendBuf buf = UInt8.ofNat (encodeAttrType d.attr)
    · rw [if_neg (not_not.mpr htype), if_neg fun hzero => hnot ⟨htype, Or.inl hzero⟩,
        if_neg fun hcheck => hnot ⟨htype, Or.inr hcheck⟩]
    · rw [if_pos htype]

/-- The merge function of each type, for a type that has one. -/
theorem mergeMsg_eq_mergeValue (hd : d.attr ≠ .talkerFailed) :
    ∃ m', (∀ k < buf + 6, m' k = p.sendBuf k) ∧
      mergeMsg signed p d.info buf d.attr d.event.index =
        mergeValue p buf d (mergeCheck signed d.info d.attr p.sendBuf buf) m' := by
  cases hattr : d.attr with
  | talkerFailed => exact absurd hattr hd
  | talkerAdvertise =>
    refine ⟨_, fun k hk => ?_, mergeTalkerMessage_eq hattr⟩
    exact putTalkerFirstValue_frame (Or.inl hk)
  | listener =>
    refine ⟨_, fun k hk => ?_, mergeListenerMessage_eq hattr⟩
    exact putList_of_lt hk
  | domainVector =>
    refine ⟨_, fun k hk => ?_, mergeDomainMessage_eq hattr⟩
    exact putList_of_lt hk

theorem mergeMsg_grown (h : TakesValue signed d.info d.attr p.sendBuf buf) :
    (mergeMsg signed p d.info buf d.attr d.event.index).1 = true ∧
      Grown p buf d.attr (mergeMsg signed p d.info buf d.attr d.event.index).2 := by
  obtain ⟨m', hhead, heq⟩ := @mergeMsg_eq_mergeValue signed p d buf h.1
  rw [heq]
  exact (mergeValue_grown hhead).1 h.2

/-- A message that does not take the value is left alone. -/
theorem mergeMsg_of_not_takes (h : ¬ TakesValue signed d.info d.attr p.sendBuf buf) :
    mergeMsg signed p d.info buf d.attr d.event.index = (false, p) := by
  by_cases hd : d.attr = .talkerFailed
  · rw [hd]
    rfl
  · obtain ⟨m', hhead, heq⟩ := @mergeMsg_eq_mergeValue signed p d buf hd
    rw [heq]
    exact (mergeValue_grown hhead).2 fun hno => h ⟨hd, hno⟩

/-! ### The loop over the messages -/

/-- Whether the loop of `doTx` finds a message that takes the value, and the address of this message
or the one where it stops. -/
def mergeTarget (signed : Bool) (info : StreamInfo) (attr : AttributeType) (m : Mem) (fin : ℕ) :
    ℕ → ℕ → Bool × ℕ
  | 0, msg => (false, msg)
  | fuel + 1, msg =>
    if msg < fin ∧ (m msg ≠ 0 ∨ m (msg + 1) ≠ 0) then
      if TakesValue signed info attr m msg then (true, msg)
      else mergeTarget signed info attr m fin fuel (msg + 4 + attributeLengthLength m msg)
    else (false, msg)

/-- The loop merges the value into the message that takes it, and leaves those alone that it
passes. -/
theorem mergeLoop_eq {r : Bool × SendBuffer × ℕ}
    (h : mergeLoop signed d.info d.attr d.event.index fin fuel p msg = some r) :
    r.1 = (mergeTarget signed d.info d.attr p.sendBuf fin fuel msg).1 ∧
      (r.1 = true → Grown p (mergeTarget signed d.info d.attr p.sendBuf fin fuel msg).2 d.attr r.2.1) ∧
      (r.1 = false → r.2 = (p, (mergeTarget signed d.info d.attr p.sendBuf fin fuel msg).2)) := by
  induction fuel generalizing msg with
  | zero => cases h
  | succ fuel ih =>
    rw [mergeLoop] at h
    rw [mergeTarget]
    by_cases hmsg : msg < fin ∧ (p.sendBuf msg ≠ 0 ∨ p.sendBuf (msg + 1) ≠ 0)
    · rw [if_pos hmsg] at h ⊢
      by_cases htakes : TakesValue signed d.info d.attr p.sendBuf msg
      · obtain ⟨hmerged, hgrown⟩ := mergeMsg_grown htakes
        rw [if_pos htakes]
        dsimp only at h
        rw [if_pos hmerged] at h
        obtain rfl := Option.some_inj.mp h
        exact ⟨rfl, fun _ => hgrown, fun hno => absurd hno.symm Bool.false_ne_true⟩
      · rw [if_neg htakes]
        rw [mergeMsg_of_not_takes htakes] at h
        exact ih h
    · rw [if_neg hmsg] at h ⊢
      obtain rfl := Option.some_inj.mp h
      exact ⟨rfl, fun hno => absurd hno Bool.false_ne_true, fun _ => rfl⟩

/-! ### The room of a message -/

/-- The octets of a new message, with the value that it takes. -/
def newMessageRoom (signed : Bool) (p : SendBuffer) (attr : AttributeType) (info : StreamInfo)
    (msg : ℕ) : ℕ :=
  firstValueLengths attr + 8 +
    if TakesValue signed info attr (createEmptyMsg p attr 0).sendBuf msg then
      valueGrowth (createEmptyMsg p attr 0).sendBuf msg attr
    else 0

/-- The octets that an attribute needs in the send buffer. -/
def messageRoom (signed : Bool) (p : SendBuffer) (attr : AttributeType) (info : StreamInfo) : ℕ :=
  let target := mergeTarget signed info attr p.sendBuf p.sendPtr (p.sendPtr + 1) firstMsg
  if target.1 then valueGrowth p.sendBuf target.2 attr
  else newMessageRoom signed p attr info target.2

theorem createEmptyMsg_sendPtr :
    (createEmptyMsg p attr n).sendPtr = p.sendPtr + (firstValueLengths attr + 8) := by
  show p.sendPtr + (4 + (firstValueLengths attr + 2 + 0 + 2)) = _
  omega

theorem newMessage_sendPtr :
    (mergeMsg signed (createEmptyMsg p d.attr 0) d.info msg d.attr d.event.index).2.sendPtr =
      p.sendPtr + newMessageRoom signed p d.attr d.info msg := by
  rw [newMessageRoom, ← Nat.add_assoc, ← createEmptyMsg_sendPtr (n := 0)]
  by_cases htakes : TakesValue signed d.info d.attr (createEmptyMsg p d.attr 0).sendBuf msg
  · rw [if_pos htakes]
    exact (mergeMsg_grown htakes).2.sendPtr
  · rw [if_neg htakes, mergeMsg_of_not_takes htakes]
    rfl

/-- A value that has been added can be told from the count. -/
theorem Grown.ne (h : Grown p buf attr q) : q ≠ p := by
  rintro rfl
  have hcount := congrArg UInt8.toNat h.count
  have hlt := (q.sendBuf (buf + 5)).toNat_lt
  rw [UInt8.toNat_ofNat', numberOfValuesLow] at hcount
  omega

/-- **What `doTx` writes.**  It takes the room of the message and changes the buffer, and where the
room is beyond the buffer it stores beyond it. -/
theorem doTx_room (signed : Bool) (p : SendBuffer) (d : Decl) :
    ∃ q, q.sendPtr = p.sendPtr + messageRoom signed p d.attr d.info ∧ q ≠ p ∧
      doTx signed p d.attr d.info d.event.index =
        if q.sendPtr ≤ mrpSendBufferSize then some q else none := by
  have hfuel : p.sendPtr ≤ firstMsg + p.sendPtr := Nat.le_add_left ..
  obtain ⟨⟨merged, q, msg⟩, hloop⟩ := Option.isSome_iff_exists.mp
    (@mergeLoop_isSome signed d.info d.attr d.event.index _ _ p _ hfuel)
  obtain ⟨hmerged, hgrown, hnew⟩ := mergeLoop_eq hloop
  dsimp only at hmerged hgrown hnew
  cases merged with
  | true =>
    refine ⟨q, ?_, (hgrown rfl).ne, ?_⟩
    · rw [messageRoom, ← hmerged, if_pos rfl]
      exact (hgrown rfl).sendPtr
    · rw [doTx, hloop]
      rfl
  | false =>
    obtain ⟨rfl, hmsg⟩ := Prod.mk.inj (hnew rfl)
    refine ⟨(mergeMsg signed (createEmptyMsg q d.attr 0) d.info msg d.attr d.event.index).2, ?_,
      fun heq => ?_, ?_⟩
    · rw [newMessage_sendPtr, messageRoom, ← hmerged, if_neg Bool.false_ne_true, hmsg]
    · have hptr := congrArg SendBuffer.sendPtr heq
      rw [newMessage_sendPtr, newMessageRoom] at hptr
      omega
    · rw [doTx, hloop]
      rfl

end Msrp
