/-
The PDU under construction, as a list of messages.

`Message` is what a message means: its attribute type, its first value and the
declarations merged into it.  The merge functions and `doTx` act on the octets of a
list of messages as `Message.add` and `addDecl` act on the list:

* `mergeMsg_region` — merging appends a declaration to one message;
* `doTx_region` — `doTx` is `addDecl`;
* `addDecl_valid` — `addDecl` keeps every message valid.
-/
import AvbSwitch.PduRegion
import AvbSwitch.Runs

namespace Msrp

open Octets Packed

/-- A machine handed to `doTx`, with what its encoding depends on. -/
structure Decl where
  attr : AttributeType
  info : StreamInfo
  event : AttrEvent
  /-- `four_vector_parameter`, the four-packed event -/
  parameter : ℕ

/-- The first value that a message started by this declaration gets. -/
def Decl.firstValue (d : Decl) : List UInt8 :=
  match d.attr with
  | .talkerAdvertise => talkerFirstValue d.info
  | .talkerFailed => List.replicate 34 0
  | .listener => streamIdOctets d.info
  | .domainVector => domainFirstValue

theorem Decl.length_firstValue (d : Decl) : d.firstValue.length = firstValueLengths d.attr := by
  rw [Decl.firstValue]
  cases d.attr with
  | talkerAdvertise => exact length_talkerFirstValue
  | talkerFailed => rfl
  | listener => rfl
  | domainVector => rfl

/-- One message of a PDU. -/
structure Message where
  attr : AttributeType
  first : List UInt8
  members : List Decl

namespace Message

def events (g : Message) : List ℕ := g.members.map fun d => d.event.index

def parameters (g : Message) : List ℕ :=
  if hasFourpackedEvents g.attr then List.replicate g.members.length fourPackedReady else []

def body (g : Message) : List UInt8 :=
  g.first ++ octetsOf 6 3 g.events ++ octetsOf 4 4 g.parameters

/-- `AttributeListLength`. -/
def listLength (g : Message) : ℕ := 2 + g.body.length + 2

def octets (g : Message) : List UInt8 := framed g.attr g.listLength g.members.length g.body

/-- What `create_empty_msg` leaves. -/
def empty (attr : AttributeType) : Message := ⟨attr, List.replicate (firstValueLengths attr) 0, []⟩

/-- A declaration is merged into the message; it brings the first value if it is the
first one. -/
def add (g : Message) (d : Decl) : Message :=
  ⟨g.attr, if g.members = [] then d.firstValue else g.first, g.members ++ [d]⟩

/-- The test of the merge function of the declaration's type. -/
def check (signed : Bool) (g : Message) (d : Decl) : Bool :=
  let fv := fun i => g.first.getD i 0
  match d.attr with
  | .talkerAdvertise => checkTalkerMerge signed d.info fv g.members.length
  | .talkerFailed => false
  | .listener => checkListenerMerge fv g.members.length d.info
  | .domainVector => checkDomainMerge

/-- The message takes the declaration. -/
def Joins (signed : Bool) (g : Message) (d : Decl) : Prop :=
  g.attr = d.attr ∧ d.attr ≠ .talkerFailed ∧ (g.members = [] ∨ g.check signed d = true)

instance (signed : Bool) (g : Message) (d : Decl) : Decidable (g.Joins signed d) :=
  inferInstanceAs (Decidable (g.attr = d.attr ∧ d.attr ≠ .talkerFailed ∧
    (g.members = [] ∨ g.check signed d = true)))

/-- The shape that every message of a PDU has. -/
structure Valid (g : Message) : Prop where
  first_length : g.first.length = firstValueLengths g.attr
  few : g.members.length ≤ 255

end Message

/-- The first message that takes the declaration gets it, if there is one. -/
def mergeInto (signed : Bool) (d : Decl) : List Message → Option (List Message)
  | [] => none
  | g :: gs => if g.Joins signed d then some (g.add d :: gs) else (mergeInto signed d gs).map (g :: ·)

/-- The message that is started for a declaration. -/
def startMessage (signed : Bool) (d : Decl) : Message :=
  if (Message.empty d.attr).Joins signed d then (Message.empty d.attr).add d
  else Message.empty d.attr

/-- A declaration is merged into a message or starts a new one. -/
def addDecl (signed : Bool) (gs : List Message) (d : Decl) : List Message :=
  (mergeInto signed d gs).getD (gs ++ [startMessage signed d])

/-- The messages of a PDU, one after another. -/
def pduOctets (gs : List Message) : List UInt8 := gs.flatMap Message.octets

@[simp] theorem pduOctets_nil : pduOctets [] = [] := rfl

@[simp] theorem pduOctets_cons {g : Message} {gs : List Message} :
    pduOctets (g :: gs) = g.octets ++ pduOctets gs := List.flatMap_cons

@[simp] theorem pduOctets_append {gs hs : List Message} :
    pduOctets (gs ++ hs) = pduOctets gs ++ pduOctets hs := List.flatMap_append

/-- The messages of the PDU that a sequence of declarations is encoded into. -/
def messages (signed : Bool) (calls : List Decl) : List Message :=
  calls.foldl (addDecl signed) []

theorem messages_snoc {signed : Bool} {calls : List Decl} {d : Decl} :
    messages signed (calls ++ [d]) = addDecl signed (messages signed calls) d := by
  rw [messages, List.foldl_append]
  rfl

/-- A declaration goes into the first message that takes it, or into a new one. -/
theorem addDecl_cases (signed : Bool) (gs : List Message) (d : Decl) :
    (∃ a g b, gs = a ++ g :: b ∧ (∀ r ∈ a, ¬ r.Joins signed d) ∧ g.Joins signed d ∧
      addDecl signed gs d = a ++ g.add d :: b) ∨
    ((∀ r ∈ gs, ¬ r.Joins signed d) ∧ addDecl signed gs d = gs ++ [startMessage signed d]) := by
  rw [addDecl]
  have hcases : (∃ a g b, gs = a ++ g :: b ∧ (∀ r ∈ a, ¬ r.Joins signed d) ∧ g.Joins signed d ∧
      mergeInto signed d gs = some (a ++ g.add d :: b)) ∨
      ((∀ r ∈ gs, ¬ r.Joins signed d) ∧ mergeInto signed d gs = none) := by
    induction gs with
    | nil => exact Or.inr ⟨by simp, rfl⟩
    | cons g gs ih =>
      rw [mergeInto]
      by_cases hj : g.Joins signed d
      · exact Or.inl ⟨[], g, gs, rfl, by simp, hj, if_pos hj⟩
      · rw [if_neg hj]
        rcases ih with ⟨a, r, b, rfl, ha, hr, hinto⟩ | ⟨hnone, hinto⟩
        · exact Or.inl ⟨g :: a, r, b, rfl, List.forall_mem_cons.mpr ⟨hj, ha⟩, hr, by simp [hinto]⟩
        · exact Or.inr ⟨List.forall_mem_cons.mpr ⟨hj, hnone⟩, by simp [hinto]⟩
  rcases hcases with ⟨a, g, b, hgs, ha, hj, hinto⟩ | ⟨hnone, hinto⟩
  · exact Or.inl ⟨a, g, b, hgs, ha, hj, by rw [hinto]; rfl⟩
  · exact Or.inr ⟨hnone, by rw [hinto]; rfl⟩

/-! ### Lengths -/

theorem length_octetsOf {b k : ℕ} {es : List ℕ} :
    (octetsOf b k es).length = (es.length + (k - 1)) / k := by
  rw [octetsOf, List.length_map, length_pack]

namespace Message

variable {g : Message} {signed : Bool} {d : Decl}

@[simp] theorem length_events : g.events.length = g.members.length := List.length_map _

theorem length_parameters (hg : hasFourpackedEvents g.attr = true) :
    g.parameters.length = g.members.length := by
  rw [parameters, if_pos hg, List.length_replicate]

theorem length_octets : g.octets.length = 4 + g.listLength := by
  rw [octets, length_framed, listLength]
  omega

/-- The length of a message as a function of its type and its number of values. -/
theorem Valid.listLength_eq (hv : g.Valid) : g.listLength =
    2 + firstValueLengths g.attr + (g.members.length + 2) / 3 +
      (if hasFourpackedEvents g.attr then (g.members.length + 3) / 4 else 0) + 2 := by
  rw [listLength, body, List.length_append, List.length_append, hv.first_length, length_octetsOf,
    length_octetsOf, length_events]
  by_cases hg : hasFourpackedEvents g.attr = true
  · rw [if_pos hg, length_parameters hg]
    omega
  · rw [if_neg hg, parameters, if_neg hg]
    simp
    omega

theorem firstValueLengths_le (attr : AttributeType) : firstValueLengths attr ≤ 34 := by
  cases attr <;> decide

theorem Valid.listLength_lt (hv : g.Valid) : g.listLength < 300 := by
  have hfew := hv.few
  have hfirst := firstValueLengths_le g.attr
  rw [hv.listLength_eq]
  split <;> omega

theorem empty_valid (attr : AttributeType) : (empty attr).Valid :=
  ⟨List.length_replicate, by simp [empty]⟩

theorem octets_empty (attr : AttributeType) : (empty attr).octets =
    framed attr (2 + firstValueLengths attr + 2) 0 (List.replicate (firstValueLengths attr) 0) := by
  have hbody : (empty attr).body = List.replicate (firstValueLengths attr) 0 := by
    have hpar : (empty attr).parameters = [] := by
      rw [parameters]
      split <;> rfl
    rw [body, hpar]
    simp [empty, events, octetsOf, pack]
  rw [octets, listLength, hbody, List.length_replicate]
  rfl

theorem Valid.add (hv : g.Valid) (hd : g.attr = d.attr) (hlt : g.members.length < 255) :
    (g.add d).Valid := by
  refine ⟨?_, ?_⟩
  · rw [Message.add]
    split
    · rw [d.length_firstValue, hd]
    · exact hv.first_length
  · simp only [Message.add, List.length_append, List.length_singleton]
    omega

end Message

theorem length_le_pduOctets (gs : List Message) : gs.length ≤ (pduOctets gs).length := by
  induction gs with
  | nil => simp
  | cons g gs ih =>
    rw [pduOctets_cons, List.length_append, Message.length_octets, List.length_cons]
    omega

/-! ### Merging into one message -/

section Merge

variable {signed : Bool} {p : SendBuffer} {g : Message} {d : Decl} {pre post : List UInt8} {buf : ℕ}

/-- What is read of a message in the buffer. -/
theorem message_reads {m : Mem} {a : ℕ} (hv : g.Valid) (hmem : Holds m a (pre ++ g.octets ++ post))
    (hbuf : buf = a + pre.length) :
    m buf = UInt8.ofNat (encodeAttrType g.attr) ∧ attributeLengthLength m buf = g.listLength ∧
      numberOfValuesLow m buf = g.members.length ∧
      ∀ i < firstValueLengths g.attr, firstValue m buf i = g.first.getD i 0 := by
  have hlist := hv.listLength_lt
  have hfew := hv.few
  rw [Message.octets, framed, List.append_assoc, List.append_assoc] at hmem
  obtain ⟨htype, -, hlen, -, hn⟩ := header_reads hmem hbuf (by omega) (by omega)
  refine ⟨htype, hlen, hn, fun i hi => ?_⟩
  rw [Message.body, holds_append, holds_append, List.append_assoc, List.append_assoc,
    List.append_assoc, holds_append] at hmem
  have hfirst := hmem.2.2.1
  rw [← hbuf, length_header] at hfirst
  have hi' : i < g.first.length := by rwa [hv.first_length]
  rw [firstValue, at_, hfirst.getElem hi', List.getD_eq_getElem?_getD,
    List.getElem?_eq_getElem hi', Option.getD_some]

theorem encodeAttrType_injective {s t : AttributeType}
    (h : UInt8.ofNat (encodeAttrType s) = UInt8.ofNat (encodeAttrType t)) : s = t := by
  revert h
  cases s <;> cases t <;> decide

theorem firstValueStreamID_congr {fv fv' : ℕ → UInt8} (h : ∀ i < 8, fv i = fv' i) :
    firstValueStreamID fv = firstValueStreamID fv' := by
  simp only [firstValueStreamID, h 0 (by omega), h 1 (by omega), h 2 (by omega), h 3 (by omega),
    h 4 (by omega), h 5 (by omega), h 6 (by omega), h 7 (by omega)]

/-- The checks read the first value only where it is. -/
theorem checkListenerMerge_congr {fv fv' : ℕ → UInt8} {n : ℕ} {info : StreamInfo}
    (h : ∀ i < 8, fv i = fv' i) : checkListenerMerge fv n info = checkListenerMerge fv' n info := by
  rw [checkListenerMerge, checkListenerMerge, firstValueStreamID_congr h]

theorem checkTalkerMerge_congr {fv fv' : ℕ → UInt8} {n : ℕ} {info : StreamInfo}
    (h : ∀ i < 25, fv i = fv' i) :
    checkTalkerMerge signed info fv n = checkTalkerMerge signed info fv' n := by
  have hdest : (addrWords fun i => octetWord (fv (8 + i))) =
      addrWords fun i => octetWord (fv' (8 + i)) := by
    simp only [addrWords, h 8 (by omega), h (8 + 1) (by omega), h (8 + 2) (by omega),
      h (8 + 3) (by omega), h (8 + 4) (by omega), h (8 + 5) (by omega), Nat.add_zero]
  rw [checkTalkerMerge, checkTalkerMerge, hdest,
    firstValueStreamID_congr fun i hi => h i (by omega), h 14 (by omega), h 15 (by omega),
    h 16 (by omega), h 17 (by omega)]

/-- Encoding the three-packed event of a new value. -/
theorem encodeThree_region (hv : g.Valid) (hlt : g.members.length < 255)
    (h : Region p (pre ++ g.octets ++ post)) (hbuf : buf = firstMsg + pre.length) :
    ∃ l, l = 2 + (g.first ++ octetsOf 6 3 (g.events ++ [d.event.index]) ++
        octetsOf 4 4 g.parameters).length + 2 ∧
      Region (mrpEncodeThreePackedEvent p buf d.event.index g.attr)
        (pre ++ framed g.attr l g.members.length
          (g.first ++ octetsOf 6 3 (g.events ++ [d.event.index]) ++ octetsOf 4 4 g.parameters) ++
          post) := by
  have hlist := hv.listLength_lt
  have hn := (message_reads hv h.1 hbuf).2.2.1
  have hcount : g.events.length = g.members.length := g.length_events
  have hlen : g.listLength = 2 + (g.first.length + (octetsOf 6 3 g.events).length +
      (octetsOf 4 4 g.parameters).length) + 2 := by
    rw [Message.listLength, Message.body, List.length_append, List.length_append]
  rw [Message.octets, Message.body, ← hcount] at h
  obtain ⟨l, hl, hreg⟩ := encodePackedEvent_region (k := 3) d.event.index
    (by omega) (by omega) (by omega) hlen h hbuf rfl
  refine ⟨l, by rw [hl, List.length_append, List.length_append], ?_⟩
  rw [mrpEncodeThreePackedEvent, hn, ← hcount, ← hv.first_length]
  exact hreg

/-- Counting the value makes the message one with one more member. -/
theorem count_region {q : SendBuffer} {l : ℕ} {rest : List UInt8}
    (h : Region q (pre ++ framed g.attr l g.members.length rest ++ post))
    (hbuf : buf = firstMsg + pre.length)
    (hrest : rest = (Message.mk g.attr g.first (g.members ++ [d])).body)
    (hl : l = 2 + rest.length + 2) :
    Region (bumpValues q buf g.members.length)
      (pre ++ (Message.mk g.attr g.first (g.members ++ [d])).octets ++ post) := by
  have hbump := bumpValues_region h hbuf
  rw [hl, hrest] at hbump
  rw [Message.octets, Message.listLength, List.length_append, List.length_singleton]
  exact hbump

/-- Encoding an event in both packed vectors, as far as the type has them, and counting the
value appends the declaration to the message. -/
theorem encodeValue_region (hv : g.Valid) (hlt : g.members.length < 255)
    (h : Region p (pre ++ g.octets ++ post)) (hbuf : buf = firstMsg + pre.length) :
    let q := mrpEncodeThreePackedEvent p buf d.event.index g.attr
    let q := if hasFourpackedEvents g.attr then
        mrpEncodeFourPackedEvent q buf fourPackedReady g.attr
      else q
    Region (bumpValues q buf g.members.length)
      (pre ++ (Message.mk g.attr g.first (g.members ++ [d])).octets ++ post) := by
  obtain ⟨l, hl, hthree⟩ := encodeThree_region (d := d) hv hlt h hbuf
  have hfew := hv.first_length
  have hfirst := Message.firstValueLengths_le g.attr
  have hevents : (Message.mk g.attr g.first (g.members ++ [d])).events =
      g.events ++ [d.event.index] := by
    simp [Message.events]
  by_cases hg : hasFourpackedEvents g.attr = true
  · have hpar : (Message.mk g.attr g.first (g.members ++ [d])).parameters =
        g.parameters ++ [fourPackedReady] := by
      rw [Message.parameters, Message.parameters, if_pos hg, if_pos hg, List.length_append]
      exact List.replicate_succ'
    have hcount : g.parameters.length = g.members.length := Message.length_parameters hg
    have hthreeLen : (octetsOf 6 3 (g.events ++ [d.event.index])).length =
        (g.members.length + 3) / 3 := by
      rw [length_octetsOf, List.length_append, g.length_events, List.length_singleton]
    have hfourLen : (octetsOf 4 4 g.parameters).length = (g.members.length + 3) / 4 := by
      rw [length_octetsOf, hcount]
    have hmem := hthree.1
    rw [List.length_append, List.length_append] at hl
    rw [framed, List.append_assoc, List.append_assoc] at hmem
    have hn := (header_reads hmem hbuf (by omega) (by omega)).2.2.2.2
    -- the header still counts the old number of values
    have haddr : buf + 4 + 2 + firstValueLengths g.attr + (g.members.length + 3) / 3 +
        g.members.length / 4 = buf + 6 +
          (g.first ++ octetsOf 6 3 (g.events ++ [d.event.index])).length +
          g.parameters.length / 4 := by
      rw [List.length_append, hthreeLen, hcount, hv.first_length]
      omega
    have hthree' : Region (mrpEncodeThreePackedEvent p buf d.event.index g.attr)
        (pre ++ framed g.attr l g.parameters.length ((g.first ++ octetsOf 6 3 (g.events ++
          [d.event.index])) ++ octetsOf 4 4 g.parameters ++ []) ++ post) := by
      rw [hcount, List.append_nil]
      exact hthree
    obtain ⟨l', hl', hfour⟩ := encodePackedEvent_region (k := 4) fourPackedReady
      (by omega) (by omega) (by omega)
      (by rw [hl, List.length_append, List.length_nil]; omega) hthree' hbuf haddr
    rw [hcount, List.append_nil] at hfour
    rw [List.length_nil, Nat.add_zero, ← List.length_append] at hl'
    simp only [if_pos hg, mrpEncodeFourPackedEvent, hn]
    refine count_region hfour hbuf ?_ hl'
    rw [Message.body, hevents, hpar]
  · have hpar : (Message.mk g.attr g.first (g.members ++ [d])).parameters = g.parameters := by
      rw [Message.parameters, Message.parameters, if_neg hg, if_neg hg]
    simp only [if_neg hg]
    refine count_region hthree hbuf ?_ hl
    rw [Message.body, hevents, hpar]

/-- A message without members, or one that keeps its first value. -/
theorem add_eq (hv : g.members ≠ []) :
    g.add d = Message.mk g.attr g.first (g.members ++ [d]) := by
  rw [Message.add, if_neg hv]

theorem add_eq_of_nil (hnil : g.members = []) :
    g.add d = Message.mk g.attr d.firstValue (g.members ++ [d]) := by
  rw [Message.add, if_pos hnil]

/-- The message after its first value has been filled in for its first member. -/
theorem putFirst_region {m' : Mem} (hv : g.Valid) (hd : g.attr = d.attr)
    (h : Region p (pre ++ g.octets ++ post)) (hbuf : buf = firstMsg + pre.length)
    (hnew : Holds m' (buf + 6) d.firstValue)
    (hout : ∀ k, k < buf + 6 ∨ buf + 6 + d.firstValue.length ≤ k → m' k = p.sendBuf k) :
    (Message.mk g.attr d.firstValue g.members).Valid ∧
      Region ⟨m', p.sendPtr⟩
        (pre ++ (Message.mk g.attr d.firstValue g.members).octets ++ post) := by
  have hlen : g.first.length = d.firstValue.length := by
    rw [hv.first_length, d.length_firstValue, hd]
  refine ⟨⟨by rw [d.length_firstValue, hd], hv.few⟩, ?_⟩
  rw [Message.octets, Message.body, List.append_assoc g.first] at h
  have hput := putFirstValue_region h hbuf hlen hnew hout
  have hlist : (Message.mk g.attr d.firstValue g.members).listLength = g.listLength := by
    simp only [Message.listLength, Message.body, List.length_append, hlen]
    rfl
  rw [Message.octets, Message.body, List.append_assoc d.firstValue, hlist]
  exact hput

/-- The part of the merge functions that encodes a value. -/
def encodeValue (p : SendBuffer) (buf : ℕ) (d : Decl) (n : ℕ) : SendBuffer :=
  let q := mrpEncodeThreePackedEvent p buf d.event.index d.attr
  let q := if hasFourpackedEvents d.attr then
      mrpEncodeFourPackedEvent q buf fourPackedReady d.attr
    else q
  bumpValues q buf n

/-- The shape of the three merge functions: `c` is the answer of the check, `m'` the buffer
with the first value stored. -/
def mergeValue (p : SendBuffer) (buf : ℕ) (d : Decl) (c : Bool) (m' : Mem) : Bool × SendBuffer :=
  let n := numberOfValuesLow p.sendBuf buf
  if p.sendBuf buf ≠ UInt8.ofNat (encodeAttrType d.attr) then (false, p)
  else if n = 0 then (true, encodeValue ⟨m', p.sendPtr⟩ buf d n)
  else if c then (true, encodeValue p buf d n)
  else (false, p)

/-- What merging a declaration into the message at hand comes to. -/
def MergeSpec (signed : Bool) (p : SendBuffer) (g : Message) (d : Decl) (pre post : List UInt8)
    (r : Bool × SendBuffer) : Prop :=
  (g.Joins signed d → r.1 = true ∧ Region r.2 (pre ++ (g.add d).octets ++ post)) ∧
    (¬ g.Joins signed d → r = (false, p))

/-- A merge function merges a declaration exactly into the messages that take it, and
leaves the others alone. -/
theorem mergeValue_region {c : Bool} {m' : Mem} (hv : g.Valid) (hlt : g.members.length < 255)
    (h : Region p (pre ++ g.octets ++ post)) (hbuf : buf = firstMsg + pre.length)
    (hd : d.attr ≠ .talkerFailed) (hc : g.attr = d.attr → c = g.check signed d)
    (hnew : Holds m' (buf + 6) d.firstValue)
    (hout : ∀ k, k < buf + 6 ∨ buf + 6 + d.firstValue.length ≤ k → m' k = p.sendBuf k) :
    MergeSpec signed p g d pre post (mergeValue p buf d c m') := by
  obtain ⟨htype, -, hn, -⟩ := message_reads hv h.1 hbuf
  have hencode : ∀ (r : Message) (q : SendBuffer), r.attr = d.attr → r.Valid →
      r.members.length < 255 → Region q (pre ++ r.octets ++ post) →
      Region (encodeValue q buf d r.members.length)
        (pre ++ (Message.mk r.attr r.first (r.members ++ [d])).octets ++ post) := by
    intro r q hattr hr hlt' h'
    rw [encodeValue, ← hattr]
    exact encodeValue_region hr hlt' h' hbuf
  rw [mergeValue, htype, hn]
  constructor
  · rintro ⟨hattr, -, hor⟩
    rw [hattr, if_neg (not_not_intro rfl)]
    by_cases hnil : g.members = []
    · -- the first value is filled in
      obtain ⟨hv', hput⟩ := putFirst_region hv hattr h hbuf hnew hout
      rw [if_pos (by rw [hnil]; rfl), add_eq_of_nil hnil]
      exact ⟨rfl, hencode ⟨g.attr, d.firstValue, g.members⟩ _ hattr hv' hlt hput⟩
    · have hlen : g.members.length ≠ 0 := fun h0 => hnil (List.length_eq_zero_iff.mp h0)
      have hcheck : g.check signed d = true := hor.resolve_left hnil
      rw [if_neg hlen, hc hattr, if_pos hcheck, add_eq hnil]
      exact ⟨rfl, hencode _ _ hattr hv hlt h⟩
  · intro hnot
    by_cases hattr : g.attr = d.attr
    · have hnil : g.members ≠ [] := fun hnil => hnot ⟨hattr, hd, Or.inl hnil⟩
      have hlen : g.members.length ≠ 0 := fun h0 => hnil (List.length_eq_zero_iff.mp h0)
      have hcheck : ¬ g.check signed d = true := fun hc' => hnot ⟨hattr, hd, Or.inr hc'⟩
      rw [hattr, if_neg (not_not_intro rfl), if_neg hlen, hc hattr, if_neg hcheck]
    · rw [if_pos (fun heq => hattr (encodeAttrType_injective heq))]

/-! The three merge functions have this shape. -/

theorem mergeTalkerMessage_eq (hd : d.attr = .talkerAdvertise) :
    mergeTalkerMessage signed p d.info buf d.event.index =
      mergeValue p buf d (checkTalkerMerge signed d.info (firstValue p.sendBuf buf)
        (numberOfValuesLow p.sendBuf buf)) (putTalkerFirstValue p.sendBuf (buf + 6) d.info) := by
  rw [mergeTalkerMessage, mergeValue, encodeValue, encodeValue, hd]
  by_cases h0 : numberOfValuesLow p.sendBuf buf = 0
  · simp only [if_pos h0]
    rfl
  · simp only [if_neg h0]
    rfl

theorem mergeListenerMessage_eq (hd : d.attr = .listener) :
    mergeListenerMessage p d.info buf d.event.index =
      mergeValue p buf d (checkListenerMerge (firstValue p.sendBuf buf)
        (numberOfValuesLow p.sendBuf buf) d.info)
        (putList p.sendBuf (buf + 6) (streamIdOctets d.info)) := by
  rw [mergeListenerMessage, mergeValue, encodeValue, encodeValue, hd]
  by_cases h0 : numberOfValuesLow p.sendBuf buf = 0
  · simp only [if_pos h0]
    rfl
  · simp only [if_neg h0]
    rfl

theorem mergeDomainMessage_eq (hd : d.attr = .domainVector) :
    mergeDomainMessage p buf d.event.index =
      mergeValue p buf d checkDomainMerge (putList p.sendBuf (buf + 6) domainFirstValue) := by
  rw [mergeDomainMessage, mergeValue, encodeValue, encodeValue, hd]
  by_cases h0 : numberOfValuesLow p.sendBuf buf = 0
  · simp only [if_pos h0]
    rfl
  · simp only [if_neg h0]
    rfl

/-- `merge_msg` is the merge function of the declaration's type. -/
theorem mergeMsg_region (signed : Bool) (d : Decl) (hv : g.Valid) (hlt : g.members.length < 255)
    (h : Region p (pre ++ g.octets ++ post)) (hbuf : buf = firstMsg + pre.length) :
    MergeSpec signed p g d pre post (mergeMsg signed p d.info buf d.attr d.event.index) := by
  obtain ⟨-, -, hn, hfirst⟩ := message_reads hv h.1 hbuf
  cases hattr : d.attr with
  | talkerFailed => exact ⟨fun hj => absurd hattr hj.2.1, fun _ => rfl⟩
  | talkerAdvertise =>
    have hfv : d.firstValue = talkerFirstValue d.info := by rw [Decl.firstValue, hattr]
    rw [mergeMsg, mergeTalkerMessage_eq hattr, hn]
    refine mergeValue_region hv hlt h hbuf (by rw [hattr]; decide) (fun hg => ?_) ?_ ?_
    · rw [Message.check, hattr]
      exact checkTalkerMerge_congr fun i hi => hfirst i (by rw [hg, hattr]; exact hi)
    · rw [hfv]
      exact putTalkerFirstValue_holds _ _ _
    · rw [hfv, length_talkerFirstValue]
      exact fun k hk => putTalkerFirstValue_frame hk
  | listener =>
    have hfv : d.firstValue = streamIdOctets d.info := by rw [Decl.firstValue, hattr]
    rw [mergeMsg, mergeListenerMessage_eq hattr, hn]
    refine mergeValue_region hv hlt h hbuf (by rw [hattr]; decide) (fun hg => ?_) ?_ ?_
    · rw [Message.check, hattr]
      exact checkListenerMerge_congr fun i hi => hfirst i (by rw [hg, hattr]; exact hi)
    · rw [hfv]
      exact holds_putList
    · rw [hfv]
      exact fun k hk => putList_frame hk
  | domainVector =>
    have hfv : d.firstValue = domainFirstValue := by rw [Decl.firstValue, hattr]
    rw [mergeMsg, mergeDomainMessage_eq hattr]
    refine mergeValue_region hv hlt h hbuf (by rw [hattr]; decide) (fun _ => ?_) ?_ ?_
    · rw [Message.check, hattr]
    · rw [hfv]
      exact holds_putList
    · rw [hfv]
      exact fun k hk => putList_frame hk

end Merge

/-! ### `doTx` -/

section DoTx

variable {signed : Bool} {p : SendBuffer} {d : Decl} {gs rest : List Message}

/-- Messages that can take one more value. -/
def Room (gs : List Message) : Prop := ∀ g ∈ gs, g.Valid ∧ g.members.length < 255

/-- The buffer holds the octets of these messages. -/
def Rep (p : SendBuffer) (gs : List Message) : Prop := Region p (pduOctets gs)

/-- The loop of `doTx` merges the declaration into the first message that takes it; if no
message does, it stops at the end of the buffer. -/
theorem mergeLoop_region (signed : Bool) (d : Decl) : ∀ (rest done : List Message) (fuel msg : ℕ), Room rest →
    Rep p (done ++ rest) → msg = firstMsg + (pduOctets done).length → rest.length ≤ fuel →
    match mergeInto signed d rest with
    | some rest' => ∃ q next, mergeLoop signed d.info d.attr d.event.index p.sendPtr (fuel + 1) p msg
        = some (true, q, next) ∧ Rep q (done ++ rest')
    | none => mergeLoop signed d.info d.attr d.event.index p.sendPtr (fuel + 1) p msg =
        some (false, p, p.sendPtr) := by
  intro rest
  induction rest with
  | nil =>
    intro done fuel msg _ hrep hmsg _
    have hptr := hrep.2
    rw [List.append_nil, ← hmsg] at hptr
    show mergeLoop _ _ _ _ _ (fuel + 1) p msg = _
    rw [mergeLoop, if_neg (by omega), hptr]
  | cons g gs ih =>
    intro done fuel msg hroom hrep hmsg hfuel
    obtain ⟨hv, hlt⟩ := hroom g List.mem_cons_self
    have hregion : Region p (pduOctets done ++ g.octets ++ pduOctets gs) := by
      rw [List.append_assoc, ← pduOctets_cons, ← pduOctets_append]
      exact hrep
    obtain ⟨htype, hlen, -, -⟩ := message_reads hv hregion.1 hmsg
    obtain ⟨hjoins, hother⟩ := mergeMsg_region signed d hv hlt hregion hmsg
    have hnonzero : UInt8.ofNat (encodeAttrType g.attr) ≠ 0 := by
      cases g.attr <;> decide
    have hbelow : msg < p.sendPtr := by
      rw [hregion.2, hmsg, List.length_append, List.length_append, Message.length_octets]
      omega
    rw [mergeInto]
    by_cases hj : g.Joins signed d
    · -- the message takes the declaration
      obtain ⟨htrue, hmerged⟩ := hjoins hj
      rw [if_pos hj]
      rcases hmerge : mergeMsg signed p d.info msg d.attr d.event.index with ⟨merged, q⟩
      rw [hmerge] at htrue hmerged
      refine ⟨q, msg + 4 + attributeLengthLength q.sendBuf msg, ?_, ?_⟩
      · rw [mergeLoop, if_pos ⟨hbelow, Or.inl (by rw [htype]; exact hnonzero)⟩]
        simp only [hmerge, htrue, if_true]
      · rw [Rep, pduOctets_append, pduOctets_cons, ← List.append_assoc]
        exact hmerged
    · -- the loop goes on behind the message
      rw [if_neg hj]
      obtain ⟨fuel, rfl⟩ : ∃ f, fuel = f + 1 := ⟨fuel - 1, by simp at hfuel; omega⟩
      have hloop : mergeLoop signed d.info d.attr d.event.index p.sendPtr (fuel + 1 + 1) p msg =
          mergeLoop signed d.info d.attr d.event.index p.sendPtr (fuel + 1) p
            (msg + g.octets.length) := by
        rw [mergeLoop, if_pos ⟨hbelow, Or.inl (by rw [htype]; exact hnonzero)⟩]
        simp only [hother hj, hlen, Bool.false_eq_true, if_false, Message.length_octets,
          Nat.add_assoc]
      have hrest := ih (done ++ [g]) fuel (msg + g.octets.length)
        (fun r hr => hroom r (List.mem_cons_of_mem g hr)) (by simpa using hrep)
        (by simp [hmsg]; omega) (by simp at hfuel; omega)
      rw [hloop]
      rcases hinto : mergeInto signed d gs with _ | gs'
      · rw [hinto] at hrest
        exact hrest
      · rw [hinto] at hrest
        obtain ⟨q, next, heq, hq⟩ := hrest
        exact ⟨q, next, heq, by simpa using hq⟩

/-- What a message started for a declaration looks like in the buffer. -/
theorem startMessage_region (hrep : Rep p gs) :
    Rep (mergeMsg signed (createEmptyMsg p d.attr 0) d.info p.sendPtr d.attr d.event.index).2
      (gs ++ [startMessage signed d]) := by
  have hempty : Region (createEmptyMsg p d.attr 0)
      (pduOctets gs ++ (Message.empty d.attr).octets ++ []) := by
    rw [List.append_nil, Message.octets_empty]
    exact createEmptyMsg_region hrep
  obtain ⟨hjoins, hother⟩ := mergeMsg_region signed d
    (Message.empty_valid d.attr) (by simp [Message.empty]) hempty hrep.2
  rw [startMessage, Rep, pduOctets_append, pduOctets_cons, pduOctets_nil, ← List.append_assoc]
  by_cases hj : (Message.empty d.attr).Joins signed d
  · rw [if_pos hj]
    exact (hjoins hj).2
  · rw [if_neg hj, hother hj]
    exact hempty

/-- `doTx` is `addDecl`, as long as the result fits the buffer. -/
theorem doTx_region (signed : Bool) (d : Decl) (hroom : Room gs) (hrep : Rep p gs) :
    ∃ q, Rep q (addDecl signed gs d) ∧ doTx signed p d.attr d.info d.event.index =
      if q.sendPtr ≤ mrpSendBufferSize then some q else none := by
  have hfuel : gs.length ≤ p.sendPtr := by
    rw [hrep.2]
    exact le_trans (length_le_pduOctets gs) (Nat.le_add_left _ _)
  have hloop := mergeLoop_region signed d gs [] p.sendPtr firstMsg hroom hrep
    rfl hfuel
  rw [doTx, addDecl]
  rcases hinto : mergeInto signed d gs with _ | gs'
  · rw [hinto] at hloop
    refine ⟨_, startMessage_region hrep, ?_⟩
    simp only [hloop, Bool.false_eq_true, if_false]
  · rw [hinto] at hloop
    obtain ⟨q, next, heq, hq⟩ := hloop
    refine ⟨q, hq, ?_⟩
    simp only [heq, if_true]

theorem startMessage_valid (signed : Bool) (d : Decl) : (startMessage signed d).Valid := by
  rw [startMessage]
  split
  · exact (Message.empty_valid _).add rfl (by simp [Message.empty])
  · exact Message.empty_valid _

theorem addDecl_valid (hroom : Room gs) : ∀ g ∈ addDecl signed gs d, g.Valid := by
  rcases addDecl_cases signed gs d with ⟨a, g, b, rfl, -, hj, heq⟩ | ⟨-, heq⟩
  · rw [heq]
    have hg := hroom g (by simp)
    intro r hr
    rcases List.mem_append.mp hr with hr | hr
    · exact (hroom r (by simp [hr])).1
    · rcases List.mem_cons.mp hr with rfl | hr
      · exact hg.1.add hj.1 hg.2
      · exact (hroom r (by simp [hr])).1
  · rw [heq]
    intro r hr
    rcases List.mem_append.mp hr with hr | hr
    · exact (hroom r hr).1
    · rw [List.mem_singleton.mp hr]
      exact startMessage_valid _ _

end DoTx

end Msrp
