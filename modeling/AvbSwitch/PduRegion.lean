/-
The octets of the PDU under construction.

`Region p xs` says that the send buffer holds exactly `xs` from the first message on, and
ends there.  Here is what the operations on the buffer do to such a list of octets:

* `encodePackedEvent_region` — encoding an event appends it to one of the two packed
  vectors of a message, whatever lies in front of the vector and behind it;
* `createEmptyMsg_region` — a message without values is appended;
* `putFirstValue_region`, `bumpValues_region` — the first value and the number of values
  of a message are replaced.
-/
import AvbSwitch.Packed
import AvbSwitch.SendBuffer

namespace Msrp

open Octets Packed

/-- The octets of a packed vector. -/
def octetsOf (b k : ℕ) (es : List ℕ) : List UInt8 := (pack b k es).map UInt8.ofNat

/-- A message header and a vector header. -/
def header (attr : AttributeType) (listLength n : ℕ) : List UInt8 :=
  [UInt8.ofNat (encodeAttrType attr), UInt8.ofNat (firstValueLengths attr),
    UInt8.ofNat (listLength / 256), UInt8.ofNat listLength, 0, UInt8.ofNat n]

@[simp] theorem length_header {attr : AttributeType} {l n : ℕ} :
    (header attr l n).length = 6 := rfl

/-- The octets of a message with the given contents between its headers and its end mark. -/
def framed (attr : AttributeType) (listLength n : ℕ) (body : List UInt8) : List UInt8 :=
  header attr listLength n ++ (body ++ [0, 0])

@[simp] theorem length_framed {attr : AttributeType} {l n : ℕ} {body : List UInt8} :
    (framed attr l n body).length = body.length + 8 := by
  simp [framed]
  omega

/-! ### Regions of the buffer -/

/-- The buffer holds exactly these octets from the first message on. -/
def Region (p : SendBuffer) (xs : List UInt8) : Prop :=
  Holds p.sendBuf firstMsg xs ∧ p.sendPtr = firstMsg + xs.length

section Regions

variable {p : SendBuffer} {m : Mem} {a buf n l : ℕ} {attr : AttributeType}
  {pre post ys : List UInt8}

/-- What is read from the headers of a message. -/
theorem header_reads (h : Holds m a (pre ++ (header attr l n ++ ys))) (hbuf : buf = a + pre.length)
    (hl : l < 65536) (hn : n < 256) :
    m buf = UInt8.ofNat (encodeAttrType attr) ∧ m (buf + 1) = UInt8.ofNat (firstValueLengths attr) ∧
      attributeLengthLength m buf = l ∧ m (buf + 4) = 0 ∧ numberOfValuesLow m buf = n := by
  rw [holds_append, ← hbuf] at h
  obtain ⟨-, h0, h1, hrest⟩ := h
  have hlen : Holds m (buf + 2) (UInt8.ofNat (l / 256) :: UInt8.ofNat l ::
      0 :: UInt8.ofNat n :: ys) := hrest
  have h4 : m (buf + 4) = 0 := hlen.2.2.1
  have h5 : m (buf + 5) = UInt8.ofNat n := hlen.2.2.2.1
  refine ⟨h0, h1, hlen.get2 hl, h4, ?_⟩
  rw [numberOfValuesLow, h5, UInt8.toNat_ofNat']
  exact Nat.mod_eq_of_lt hn

end Regions

/-! ### Encoding one event -/

theorem encodePacked_eq (b k event i vector : ℕ) :
    encodePacked b k event i vector = vector + event * b ^ (k - 1 - i) := by
  rw [encodePacked]
  congr 1
  generalize k - 1 - i = j
  induction j with
  | zero => simp
  | succ j ih => rw [Function.iterate_succ_apply', ih, pow_succ, Nat.mul_assoc]

/-- Adding to an octet and then dropping the carry is adding and dropping the carry. -/
theorem ofNat_toNat_add (v w : ℕ) :
    UInt8.ofNat ((UInt8.ofNat v).toNat + w) = UInt8.ofNat (v + w) := by
  rw [← UInt8.toNat_inj, UInt8.toNat_ofNat', UInt8.toNat_ofNat', UInt8.toNat_ofNat']
  omega

section Encode

variable {p : SendBuffer} {b k buf vector event : ℕ} {attr : AttributeType} {es : List ℕ}
  {pre front back post : List UInt8}

/-- The octet for a new value is opened: everything behind it moves up by one, the
length in the header grows by one, and the end mark is written again over itself. -/
theorem openOctet_region {words : List UInt8} {l n : ℕ} (hn : n < 256) (hl : l + 1 < 65536)
    (hlen : l = 2 + (front.length + words.length + back.length) + 2)
    (h : Region p (pre ++ framed attr l n (front ++ words ++ back) ++ post))
    (hbuf : buf = firstMsg + pre.length)
    (hvec : vector = buf + 6 + front.length + words.length) :
    let m := put (mymemmove p.sendBuf (vector + 1) vector (p.sendPtr - vector)) vector 0
    let m := put2 m (buf + 2) (attributeLengthLength p.sendBuf buf + 1)
    let endmark := buf + 4 + (attributeLengthLength p.sendBuf buf + 1) - 2
    vector < p.sendPtr ∧ Region ⟨put (put m endmark 0) (endmark + 1) 0, p.sendPtr + 1⟩
      (pre ++ framed attr (l + 1) n (front ++ (words ++ [0]) ++ back) ++ post) := by
  obtain ⟨hmem, hptr⟩ := h
  have hread : attributeLengthLength p.sendBuf buf = l := by
    rw [framed, List.append_assoc, List.append_assoc] at hmem
    exact (header_reads hmem hbuf (by omega) hn).2.2.1
  have hend : p.sendPtr = vector + (back.length + 2 + post.length) := by
    rw [hptr, hvec, hbuf]
    simp
    omega
  refine ⟨by omega, ?_, ?_⟩
  · rw [hread]
    -- the octets from `vector` on move up, and a zero is stored in the gap
    have hsplit : pre ++ framed attr l n (front ++ words ++ back) ++ post =
        (pre ++ header attr l n ++ front ++ words) ++ (back ++ [0, 0] ++ post) := by
      simp [framed]
    rw [hsplit] at hmem
    have hgap : Holds (put (mymemmove p.sendBuf (vector + 1) vector (p.sendPtr - vector)) vector 0)
        firstMsg ((pre ++ header attr l n ++ front ++ words) ++ 0 :: (back ++ [0, 0] ++ post)) := by
      refine hmem.insert (by simp; omega) fun k => ?_
      rw [mymemmove_apply]
      by_cases hk : vector + 1 ≤ k ∧ k < vector + 1 + (p.sendPtr - vector)
      · rw [if_pos hk, if_pos (by simp; omega)]
        congr 1
        omega
      · rw [if_neg hk, if_neg (by simp; omega)]
    -- the length in the message header
    have hsplit2 : (pre ++ header attr l n ++ front ++ words) ++ 0 :: (back ++ [0, 0] ++ post) =
        (pre ++ [UInt8.ofNat (encodeAttrType attr), UInt8.ofNat (firstValueLengths attr)]) ++
          UInt8.ofNat (l / 256) :: UInt8.ofNat l ::
            (0 :: UInt8.ofNat n :: (front ++ words ++ 0 :: (back ++ [0, 0] ++ post))) := by
      simp [header]
    rw [hsplit2] at hgap
    have hhead := hgap.put2_mid (v := l + 1) (b := buf + 2) (by simp; omega)
    -- the end mark, over the one that has moved up
    have hsplit3 : (pre ++ [UInt8.ofNat (encodeAttrType attr),
          UInt8.ofNat (firstValueLengths attr)]) ++
        UInt8.ofNat ((l + 1) / 256) :: UInt8.ofNat (l + 1) ::
          (0 :: UInt8.ofNat n :: (front ++ words ++ 0 :: (back ++ [0, 0] ++ post))) =
        (pre ++ header attr (l + 1) n ++ front ++ words ++ [0] ++ back) ++ 0 :: 0 :: post := by
      simp [header]
    rw [hsplit3] at hhead
    have hmark := hhead.put_mid (x := 0) (b := buf + 4 + (l + 1) - 2) (by simp; omega)
    have hmark2 : Holds (put (put (put2 (put (mymemmove p.sendBuf (vector + 1) vector
          (p.sendPtr - vector)) vector 0) (buf + 2) (l + 1)) (buf + 4 + (l + 1) - 2) 0)
          (buf + 4 + (l + 1) - 2 + 1) 0) firstMsg
        ((pre ++ header attr (l + 1) n ++ front ++ words ++ [0] ++ back ++ [0]) ++ 0 :: post) :=
      Holds.put_mid (y := 0) (by simpa using hmark) (by simp; omega)
    simpa [framed] using hmark2
  · show p.sendPtr + 1 = _
    rw [hend, hvec, hbuf]
    simp
    omega

/-- Writing an event into the octet that has been found or opened for it. -/
theorem putEvent_region {init : List UInt8} {l n last i : ℕ}
    (h : Region p (pre ++ framed attr l n (front ++ (init ++ [UInt8.ofNat last]) ++ back) ++ post))
    (hvec : vector = firstMsg + pre.length + 6 + front.length + init.length) :
    Region ⟨put p.sendBuf vector (UInt8.ofNat
        (encodePacked b k event i (p.sendBuf vector).toNat)), p.sendPtr⟩
      (pre ++ framed attr l n
        (front ++ (init ++ [UInt8.ofNat (last + event * b ^ (k - 1 - i))]) ++ back) ++ post) := by
  obtain ⟨hmem, hptr⟩ := h
  have hsplit : ∀ x : UInt8, pre ++ framed attr l n (front ++ (init ++ [x]) ++ back) ++ post =
      (pre ++ header attr l n ++ front ++ init) ++ x :: (back ++ [0, 0] ++ post) := by
    intro x
    simp [framed]
  rw [hsplit] at hmem
  have haddr : vector = firstMsg + (pre ++ header attr l n ++ front ++ init).length := by
    rw [hvec]
    simp
    omega
  refine ⟨?_, by rw [hptr]; simp⟩
  rw [hsplit, hmem.read_mid haddr, encodePacked_eq, ofNat_toNat_add]
  exact hmem.put_mid haddr

/-- Encoding an event appends it to its packed vector, the octets before and behind the
vector staying as they are; the length in the header and the end of the buffer follow. -/
theorem encodePackedEvent_region (event : ℕ) (hk : 0 < k) (hn : es.length < 256) {l : ℕ}
    (hl : l + 1 < 65536)
    (hlen : l = 2 + (front.length + (octetsOf b k es).length + back.length) + 2)
    (h : Region p (pre ++ framed attr l es.length (front ++ octetsOf b k es ++ back) ++ post))
    (hbuf : buf = firstMsg + pre.length)
    (hvec : vector = buf + 6 + front.length + es.length / k) :
    ∃ l', l' = 2 + (front.length + (octetsOf b k (es ++ [event])).length + back.length) + 2 ∧
      Region (encodePackedEvent b k p buf vector event)
        (pre ++ framed attr l' es.length (front ++ octetsOf b k (es ++ [event]) ++ back) ++
          post) := by
  obtain ⟨init, last, hinit, hopen, hsnoc⟩ := pack_snoc b hk es event
  have hread : numberOfValuesLow p.sendBuf buf = es.length := by
    have hmem := h.1
    rw [framed, List.append_assoc, List.append_assoc] at hmem
    exact (header_reads hmem hbuf (by omega) hn).2.2.2.2
  have hsnoc' : octetsOf b k (es ++ [event]) = init.map UInt8.ofNat ++
      [UInt8.ofNat (last + event * b ^ (k - 1 - es.length % k))] := by
    rw [octetsOf, hsnoc, List.map_append, List.map_singleton]
  have hvec' : vector = firstMsg + pre.length + 6 + front.length +
      (init.map UInt8.ofNat).length := by
    rw [List.length_map, hinit, hvec, hbuf]
  rw [encodePackedEvent, hread]
  by_cases h0 : es.length % k = 0
  · -- the last octet is full
    rw [if_pos h0] at hopen
    have hlen0 : (octetsOf b k es).length = es.length / k := by
      have := congrArg List.length hopen
      rw [octetsOf, List.length_map]
      simp only [List.length_append, List.length_singleton] at this
      omega
    have hopen' : octetsOf b k es ++ [0] = init.map UInt8.ofNat ++ [UInt8.ofNat last] := by
      have := congrArg (List.map UInt8.ofNat) hopen
      simpa [octetsOf] using this
    have hfull : vector = buf + 6 + front.length + (octetsOf b k es).length := by
      rw [hlen0]
      exact hvec
    obtain ⟨hlt, hreg⟩ := openOctet_region hn hl hlen h hbuf hfull
    rw [hopen'] at hreg
    refine ⟨l + 1, ?_, ?_⟩
    · rw [hsnoc', List.length_append, List.length_singleton, List.length_map, hinit, hlen, hlen0]
      omega
    · rw [hsnoc']
      simp only [if_pos h0, if_pos hlt]
      exact putEvent_region hreg hvec'
  · -- there is still room in the last octet
    rw [if_neg h0] at hopen
    have hopen' : octetsOf b k es = init.map UInt8.ofNat ++ [UInt8.ofNat last] := by
      rw [octetsOf, hopen, List.map_append, List.map_singleton]
    refine ⟨l, ?_, ?_⟩
    · rw [hsnoc', hlen, hopen']
      simp
    · rw [hopen'] at h
      rw [hsnoc']
      simp only [if_neg h0]
      exact putEvent_region h hvec'

end Encode

/-! ### Headers and first values -/

section Write

variable {p : SendBuffer} {buf l n : ℕ} {attr : AttributeType} {pre first first' rest post : List UInt8}

/-- Only the number of values in the vector header changes. -/
theorem bumpValues_region
    (h : Region p (pre ++ framed attr l n rest ++ post)) (hbuf : buf = firstMsg + pre.length) :
    Region (bumpValues p buf n) (pre ++ framed attr l (n + 1) rest ++ post) := by
  obtain ⟨hmem, hptr⟩ := h
  have hsplit : ∀ k, pre ++ framed attr l k rest ++ post =
      (pre ++ [UInt8.ofNat (encodeAttrType attr), UInt8.ofNat (firstValueLengths attr),
        UInt8.ofNat (l / 256), UInt8.ofNat l, 0]) ++ UInt8.ofNat k :: (rest ++ [0, 0] ++ post) := by
    intro k
    simp [framed, header]
  rw [hsplit] at hmem
  refine ⟨?_, by rw [bumpValues, hptr]; simp⟩
  rw [hsplit]
  exact hmem.put_mid (by rw [hbuf]; simp; omega)

/-- A first value is replaced by stores that touch nothing else. -/
theorem putFirstValue_region {m' : Mem}
    (h : Region p (pre ++ framed attr l n (first ++ rest) ++ post))
    (hbuf : buf = firstMsg + pre.length) (hlen : first.length = first'.length)
    (hnew : Holds m' (buf + 6) first')
    (hout : ∀ k, k < buf + 6 ∨ buf + 6 + first'.length ≤ k → m' k = p.sendBuf k) :
    Region ⟨m', p.sendPtr⟩ (pre ++ framed attr l n (first' ++ rest) ++ post) := by
  obtain ⟨hmem, hptr⟩ := h
  have hsplit : ∀ xs, pre ++ framed attr l n (xs ++ rest) ++ post =
      (pre ++ header attr l n) ++ xs ++ (rest ++ [0, 0] ++ post) := by
    intro xs
    simp [framed]
  rw [hsplit] at hmem
  refine ⟨?_, by rw [hptr]; simp [hlen]⟩
  rw [hsplit]
  exact hmem.replace hlen (by rw [hbuf]; simp; omega) hnew hout

/-- The first value of a Talker Advertise message. -/
def talkerFirstValue (info : StreamInfo) : List UInt8 :=
  streamIdOctets info ++ info.addr.toList ++ octets2 info.vlan.toNat ++
    octets2 info.maxframesize.toNat ++ octets2 info.maxintframes.toNat ++ [info.tspec] ++
    (octets2 ((info.accumulatedLatency + 1).toNat / 65536) ++
      octets2 (info.accumulatedLatency + 1).toNat)

@[simp] theorem length_streamIdOctets {info : StreamInfo} : (streamIdOctets info).length = 8 := rfl

@[simp] theorem length_talkerFirstValue {info : StreamInfo} :
    (talkerFirstValue info).length = 25 := by
  simp [talkerFirstValue]

theorem putTalkerFirstValue_holds (m : Mem) (fv : ℕ) (info : StreamInfo) :
    Holds (putTalkerFirstValue m fv info) fv (talkerFirstValue info) := by
  rw [talkerFirstValue, putTalkerFirstValue]
  have hid : (streamIdOctets info).length = 8 := rfl
  have haddr : info.addr.toList.length = 6 := Vector.length_toList
  have h2 : ∀ v, (octets2 v).length = 2 := fun v => rfl
  have h1 : [info.tspec].length = 1 := rfl
  simp only [holds_append, List.length_append, hid, haddr, h2, h1]
  -- each field is what one of the stores left, and the later stores fall elsewhere
  refine ⟨⟨⟨⟨⟨⟨?_, ?_⟩, ?_⟩, ?_⟩, ?_⟩, ?_⟩, ?_⟩
  · exact ((((holds_putList.put2_off (by omega)).put_off (by omega)).put2_off
      (by omega)).put2_off (by omega)).put4_off (by omega)
  · exact (((((holds_putList.putList_off (by omega)).put2_off (by omega)).put_off
      (by omega)).put2_off (by omega)).put2_off (by omega)).put4_off (by omega)
  · exact (((holds_put2.put_off (by rw [h2]; omega)).put2_off (by rw [h2]; omega)).put2_off
      (by rw [h2]; omega)).put4_off (by rw [h2]; omega)
  · exact (holds_put2.put2_off (by rw [h2]; omega)).put4_off (by rw [h2]; omega)
  · exact holds_put2.put4_off (by rw [h2]; omega)
  · have hput : ∀ m : Mem, Holds (put m (fv + 20) info.tspec) (fv + 20) [info.tspec] :=
      fun m => ⟨put_same, trivial⟩
    exact (((hput _).put2_off (by omega)).put2_off (by omega)).put4_off (by omega)
  · exact holds_append.mp holds_put4

theorem putTalkerFirstValue_frame {m : Mem} {fv k : ℕ} {info : StreamInfo}
    (hk : k < fv ∨ fv + 25 ≤ k) : putTalkerFirstValue m fv info k = m k := by
  have hid : (streamIdOctets info).length = 8 := rfl
  have haddr : info.addr.toList.length = 6 := Vector.length_toList
  rw [putTalkerFirstValue, put4]
  rcases hk with hk | hk
  · simp (disch := omega) only [put2_of_lt, put_other, putList_of_lt]
  · simp (disch := omega) only [put2_of_ge, put_other, putList_of_ge]

end Write

/-! ### A message without values -/

/-- A message without values is appended: its first value is zero. -/
theorem createEmptyMsg_region {p : SendBuffer} {attr : AttributeType} {xs : List UInt8}
    (h : Region p xs) :
    Region (createEmptyMsg p attr 0) (xs ++ framed attr (2 + firstValueLengths attr + 2) 0
      (List.replicate (firstValueLengths attr) 0)) := by
  obtain ⟨hmem, hptr⟩ := h
  have hzero : Holds (fill p.sendBuf p.sendPtr 0 (4 + (firstValueLengths attr + 2 + 0 + 2)))
      p.sendPtr ([0, 0, 0, 0, 0, 0] ++ (List.replicate (firstValueLengths attr) 0 ++ [0, 0])) := by
    have hrep : List.replicate (4 + (firstValueLengths attr + 2 + 0 + 2)) (0 : UInt8) =
        [0, 0, 0, 0, 0, 0] ++ (List.replicate (firstValueLengths attr) 0 ++ [0, 0]) := by
      rw [show 4 + (firstValueLengths attr + 2 + 0 + 2) = 6 + (firstValueLengths attr + 2) by omega,
        List.replicate_add, List.replicate_add]
      rfl
    rw [← hrep]
    exact holds_putList
  refine ⟨?_, ?_⟩
  · rw [createEmptyMsg, holds_append, ← hptr, framed, holds_append, length_header]
    refine ⟨?_, ?_, ?_⟩
    · -- nothing is stored below the end of the buffer
      exact (((((hmem.putList_off (by omega)).put_off (by omega)).put_off (by omega)).put2_off
        (by omega)).put_off (by omega)).put_off (by omega)
    · refine ⟨?_, ?_, ?_, ?_, ?_, ?_, trivial⟩ <;>
        simp (disch := omega) only [put2, Nat.add_assoc, Nat.reduceAdd, put_other, put_same]
      · rw [show 2 + (firstValueLengths attr + 2) = firstValueLengths attr + 4 by omega]
      · rw [show 2 + (firstValueLengths attr + 2) = firstValueLengths attr + 4 by omega]
      · rfl
      · rfl
    · -- the first value and the end mark are what the fill has left
      have hrest := (holds_append.mp hzero).2
      exact ((((hrest.put_off (by simp)).put_off (by simp)).put2_off (by simp)).put_off
        (by simp)).put_off (by simp)
  · rw [createEmptyMsg, hptr]
    simp
    omega

end Msrp
