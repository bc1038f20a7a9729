/-
What the receive loops read off a PDU.

`places` lists the members of the messages of a PDU with their places in them, and
`rxAt` is what the receive loops take out of a message at a place.  Parsing the octets of
a list of messages gives `rxAt` at every place, up to the first message without values
(`messageLoop_pdu`).
-/
import AvbSwitch.PduWellFormed

namespace Msrp

open Octets Packed

/-- What one attribute value says: its type, its StreamID if it is a stream's, its event,
and its four-packed event if it is a Listener's. -/
structure Carried where
  attr : AttributeType
  streamID : Option (UInt32 × UInt32)
  event : ℤ
  parameter : Option ℤ
  deriving DecidableEq

def Decl.carried (d : Decl) : Carried where
  attr := d.attr
  streamID := if d.attr.IsStream then some d.info.streamID else none
  event := d.event.index
  parameter := if hasFourpackedEvents d.attr then some d.parameter else none

def RxValue.carried (signed : Bool) (v : RxValue) : Carried where
  attr := v.attrType
  streamID := if v.attrType.IsStream then some (wireStreamID signed v.firstValue v.i) else none
  event := v.threePackedEvent
  parameter := if hasFourpackedEvents v.attrType then some v.fourPackedEvent else none

def RxItem.carried (signed : Bool) : RxItem → Option Carried
  | .leaveAll _ => none
  | .value v => some (v.carried signed)

/-- What the receive loops take out of place `i` of a message. -/
def rxAt (signed : Bool) (g : Message) (i : ℕ) : Carried where
  attr := g.attr
  streamID :=
    if g.attr.IsStream then some (wireStreamID signed (fun j => g.first.getD j 0) i) else none
  event := decodeThreepacked (charVal signed (UInt8.ofNat (wordAt 6 3 g.events (i / 3)))) (i % 3)
  parameter :=
    if hasFourpackedEvents g.attr then
      some (decodeFourpacked (charVal signed (UInt8.ofNat (wordAt 4 4 g.parameters (i / 4)))) (i % 4))
    else none

/-- A member of a message and its place in it. -/
structure Place where
  message : Message
  member : Decl
  index : ℕ

def Message.places (g : Message) : List Place := g.members.zipIdx.map fun x => ⟨g, x.1, x.2⟩

def places (gs : List Message) : List Place := gs.flatMap Message.places

def Place.rx (signed : Bool) (x : Place) : Carried := rxAt signed x.message x.index

theorem Message.places_rx (signed : Bool) (g : Message) :
    g.places.map (Place.rx signed) = (List.range g.members.length).map (rxAt signed g) := by
  have hsnd : g.members.zipIdx.map Prod.snd = List.range g.members.length := by
    rw [List.zipIdx_map_snd, List.range_eq_range']
  rw [Message.places, List.map_map, ← hsnd, List.map_map]
  rfl

theorem Message.places_member (g : Message) : g.places.map Place.member = g.members := by
  rw [Message.places, List.map_map]
  exact List.zipIdx_map_fst 0 g.members

theorem places_member (gs : List Message) :
    (places gs).map Place.member = gs.flatMap Message.members := by
  rw [places, List.map_flatMap]
  simp only [Message.places_member]

theorem mem_places {gs : List Message} {x : Place} :
    x ∈ places gs ↔ x.message ∈ gs ∧ x.message.members[x.index]? = some x.member := by
  obtain ⟨g, d, i⟩ := x
  simp only [places, Message.places, List.mem_flatMap, List.mem_map, List.mem_zipIdx_iff_getElem?,
    Place.mk.injEq, Prod.exists]
  constructor
  · rintro ⟨r, hr, e, j, hget, rfl, rfl, rfl⟩
    exact ⟨hr, hget⟩
  · rintro ⟨hg, hget⟩
    exact ⟨g, hg, d, i, hget, rfl, rfl, rfl⟩

/-! ### Parsing the octets of a PDU -/

section Parse

variable {signed : Bool} {m : Mem} {a fin msg : ℕ} {g : Message} {pre post : List UInt8}

theorem wireStreamID_congr {fv fv' : ℕ → UInt8} {i : ℕ} (h : ∀ j < 8, fv j = fv' j) :
    wireStreamID signed fv i = wireStreamID signed fv' i := by
  simp only [wireStreamID, h 0 (by omega), h 1 (by omega), h 2 (by omega), h 3 (by omega),
    h 4 (by omega), h 5 (by omega), h 6 (by omega), h 7 (by omega)]

theorem firstValueLengths_of_isStream {t : AttributeType} (h : t.IsStream) :
    8 ≤ firstValueLengths t := by
  cases t with
  | domainVector => exact absurd rfl h
  | _ => decide

/-- A packed octet of a message, where the loops look for it. -/
theorem octetsOf_read {b k i : ℕ} {es : List ℕ} (hk : 0 < k) (h : Holds m a (octetsOf b k es))
    (hi : i < es.length) (hmsg : msg = a + i / k) : m msg = UInt8.ofNat (wordAt b k es (i / k)) := by
  have hlen : i / k < (octetsOf b k es).length := by
    rw [length_octetsOf]
    exact index_lt_words hk hi
  rw [hmsg, h.getElem hlen]
  simp only [octetsOf, List.getElem_map, getElem_pack]

/-- One value of a message, as the innermost loop sees it. -/
theorem rxValue_carried (hv : g.Valid) (hmem : Holds m a (pre ++ g.octets ++ post))
    (hmsg : msg = a + pre.length) {i : ℕ} (hi : i < g.members.length) :
    (rxValue signed m g.attr (firstValueLengths g.attr) (msg + 4) i).carried signed =
      rxAt signed g i := by
  obtain ⟨-, hthree, hfour, -⟩ := message_parts hv hmem hmsg
  have hnum := (message_header hv hmem hmsg).2.2
  have hfirst := (message_reads hv hmem hmsg).2.2.2
  have hevent : at_ m (msg + 4 + 2) (firstValueLengths g.attr + i / 3) =
      UInt8.ofNat (wordAt 6 3 g.events (i / 3)) := by
    rw [at_]
    exact octetsOf_read (by omega) hthree (by rwa [g.length_events]) (by omega)
  have hid : g.attr.IsStream → wireStreamID signed (at_ m (msg + 4 + 2)) i =
      wireStreamID signed (fun j => g.first.getD j 0) i := fun hstream =>
    wireStreamID_congr fun j hj => hfirst j (by
      have := firstValueLengths_of_isStream hstream
      omega)
  have hpar : hasFourpackedEvents g.attr = true →
      at_ m (msg + 4 + 2) (firstValueLengths g.attr + threepackedLen g.members.length + i / 4) =
        UInt8.ofNat (wordAt 4 4 g.parameters (i / 4)) := by
    intro hg
    rw [at_, threepackedLen]
    exact octetsOf_read (by omega) hfour (by rwa [Message.length_parameters hg]) (by omega)
  rw [rxAt, RxValue.carried, rxValue, hnum, hevent, Carried.mk.injEq]
  refine ⟨rfl, ?_, rfl, ?_⟩
  · by_cases hstream : g.attr.IsStream
    · rw [if_pos hstream, if_pos hstream, hid hstream]
    · rw [if_neg hstream, if_neg hstream]
  · by_cases hg : hasFourpackedEvents g.attr = true
    · simp only [if_pos hg, hpar hg]
    · simp only [if_neg hg]

/-- The messages in front of the first one without values. -/
def readable (gs : List Message) : List Message := gs.takeWhile fun g => g.members ≠ []

theorem readable_cons_of_nil {gs : List Message} (hne : g.members = []) : readable (g :: gs) = [] :=
  List.takeWhile_cons_of_neg (by simpa using hne)

theorem readable_cons_of_ne {gs : List Message} (hne : g.members ≠ []) :
    readable (g :: gs) = g :: readable gs :=
  List.takeWhile_cons_of_pos (by simpa using hne)

/-- A message without values has a first value of zeros. -/
def ZeroIfEmpty (g : Message) : Prop :=
  g.members = [] → g.first = List.replicate (firstValueLengths g.attr) 0

/-- What a message with values gives, the loop stopping at its end mark. -/
theorem vectorLoop_message (signed : Bool) (fin fuel : ℕ) (hv : g.Valid) (hmem : Holds m a (pre ++ g.octets ++ post))
    (hmsg : msg = a + pre.length) (hne : g.members ≠ []) (hfin : msg + g.octets.length ≤ fin) :
    ∃ items, vectorLoop signed m fin g.attr (firstValueLengths g.attr) (fuel + 2) (msg + 4) =
        (items, some (msg + g.octets.length - 2)) ∧
      items.filterMap (RxItem.carried signed) = g.places.map (Place.rx signed) := by
  obtain ⟨-, hleave, hnum⟩ := message_header hv hmem hmsg
  have hend := (message_parts hv hmem hmsg).2.2.2
  have hlist := hv.listLength_eq
  have hcount := (message_reads hv hmem hmsg).2.2.1
  have hpos : 0 < g.members.length := List.length_pos_iff.mpr hne
  have hlen : vectorLen g.attr (firstValueLengths g.attr) (numvalues m (msg + 4)) =
      g.octets.length - 6 := by
    rw [hnum, vectorLen, threepackedLen, fourpackedLen, Message.length_octets, hlist]
    omega
  have hocts : 8 ≤ g.octets.length := by
    rw [Message.length_octets, hlist]
    omega
  have hnonzero : m (msg + 4 + 1) ≠ 0 := by
    intro h0
    rw [numberOfValuesLow, show msg + 5 = msg + 4 + 1 by omega, h0] at hcount
    simp at hcount
    omega
  have hstop : msg + 4 + (g.octets.length - 6) = msg + 4 + g.listLength - 2 := by
    rw [Message.length_octets] at hocts ⊢
    omega
  have hitems : (vectorItems signed m g.attr (firstValueLengths g.attr) (msg + 4)).filterMap
      (RxItem.carried signed) = g.places.map (Place.rx signed) := by
    have hnone : leaveAllEvent m (msg + 4) = 0 := by
      rw [leaveAllEvent, hleave]
      rfl
    rw [vectorItems, hnone, if_neg (not_not_intro rfl), List.nil_append, hnum, g.places_rx,
      List.filterMap_map, ← List.filterMap_eq_map]
    refine List.filterMap_congr fun i hi => ?_
    exact congrArg some (rxValue_carried hv hmem hmsg (List.mem_range.mp hi))
  refine ⟨_, ?_, hitems⟩
  rw [vectorLoop, if_pos ⟨by omega, Or.inr hnonzero⟩]
  simp only [hlen]
  rw [if_neg (by omega), hstop, vectorLoop, if_neg]
  · simp only [List.append_nil]
    rw [Message.length_octets] at hstop hocts ⊢
    congr 2
    omega
  · -- the two octets of the end mark
    rintro ⟨-, h0 | h1⟩
    · exact h0 hend.1
    · exact h1 hend.2.1

/-- Parsing the octets of a PDU gives its places, up to the first message without values. -/
theorem messageLoop_pdu (signed : Bool) (fin : ℕ) : ∀ (gs done : List Message) (fuel : ℕ),
    (∀ g ∈ gs, g.Valid ∧ ZeroIfEmpty g) → Holds m a (pduOctets (done ++ gs) ++ [0, 0]) →
    a + (pduOctets (done ++ gs)).length + 2 ≤ fin → gs.length < fuel →
    (messageLoop signed m fin fuel (a + (pduOctets done).length)).filterMap (RxItem.carried signed) =
      (places (readable gs)).map (Place.rx signed) := by
  intro gs
  induction gs with
  | nil =>
    intro done fuel _ hmem _ hfuel
    obtain ⟨fuel, rfl⟩ : ∃ f, fuel = f + 1 := ⟨fuel - 1, by omega⟩
    rw [List.append_nil, holds_append] at hmem
    rw [messageLoop, if_neg]
    · rfl
    · rintro ⟨-, h0 | h1⟩
      · exact h0 hmem.2.1
      · exact h1 hmem.2.2.1
  | cons g gs ih =>
    intro done fuel hgs hmem hfin hfuel
    obtain ⟨hv, hzero⟩ := hgs g List.mem_cons_self
    obtain ⟨fuel, rfl⟩ : ∃ f, fuel = f + 1 := ⟨fuel - 1, by omega⟩
    have hmem' : Holds m a (pduOctets done ++ g.octets ++ (pduOctets gs ++ [0, 0])) := by
      simpa using hmem
    obtain ⟨htype, -⟩ := message_reads hv hmem' rfl
    obtain ⟨hfvl, hleave, hnum⟩ := message_header hv hmem' rfl
    have hocts := g.length_octets
    have htotal : (pduOctets (done ++ g :: gs)).length =
        (pduOctets done).length + g.octets.length + (pduOctets gs).length := by
      simp
      omega
    have hattr : decodeAttrType (m (a + (pduOctets done).length)).toNat = some g.attr := by
      rw [htype]
      cases g.attr <;> rfl
    have hnonzero : m (a + (pduOctets done).length) ≠ 0 := by
      rw [htype]
      cases g.attr <;> decide
    have hlist := hv.listLength_eq
    obtain ⟨f, hf⟩ : ∃ f, fin + 1 = f + 2 := ⟨fin - 1, by omega⟩
    rw [messageLoop, if_pos ⟨by omega, Or.inl hnonzero⟩, hattr, hfvl, hf]
    by_cases hne : g.members = []
    · -- the parser takes the zeros of the first value for the end of the PDU
      have hfirst := (message_parts hv hmem' rfl).1
      rw [hzero hne] at hfirst
      have hvec : vectorLoop signed m fin g.attr (firstValueLengths g.attr) (f + 2)
          (a + (pduOctets done).length + 4) = ([], some (a + (pduOctets done).length + 4)) := by
        rw [vectorLoop, if_neg]
        rintro ⟨-, h0 | h1⟩
        · exact h0 hleave
        · rw [numvalues, hleave, hne] at hnum
          exact h1 (UInt8.toNat_inj.mp (by simpa using hnum))
      have hend : messageLoop signed m fin fuel (a + (pduOctets done).length + 4 + 2) = [] := by
        rcases fuel with _ | fuel
        · rfl
        · rw [messageLoop, if_neg]
          have hlen : 2 ≤ firstValueLengths g.attr := by cases g.attr <;> decide
          obtain ⟨k, hk⟩ : ∃ k, firstValueLengths g.attr = k + 2 :=
            ⟨firstValueLengths g.attr - 2, by omega⟩
          rw [hk, List.replicate_succ, List.replicate_succ] at hfirst
          rintro ⟨-, h0 | h1⟩
          · exact h0 hfirst.1
          · exact h1 hfirst.2.1
      simp only [hvec, hend]
      rw [readable_cons_of_nil hne]
      rfl
    · -- the values of this message, and then those of the others
      obtain ⟨items, hvec, hitems⟩ := vectorLoop_message signed fin f hv hmem' rfl hne (by omega)
      have hrest := ih (done ++ [g]) fuel (fun r hr => hgs r (List.mem_cons_of_mem g hr))
        (by simpa using hmem) (by simpa using hfin) (by simp at hfuel; omega)
      have hnext : a + (pduOctets done).length + g.octets.length - 2 + 2 =
          a + (pduOctets (done ++ [g])).length := by
        simp
        omega
      simp only [hvec, hnext, List.filterMap_append, hitems, hrest]
      rw [readable_cons_of_ne hne, places, places, List.flatMap_cons, List.map_append]

end Parse

end Msrp
