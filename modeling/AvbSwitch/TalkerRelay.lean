/-
What a bridge makes of a Talker's traffic description.

A received first value goes into an entry of `stream_info_vars`, and from there into the first value
of a message of its own.  `relayed_holds` is the second half, `relayed_from` both together: which
octets of the received value each octet of the new one has.

The frame size and the number of frames have two octets on the wire and are loaded with four, of
which the last two are stored again.  So each of them is replaced by what follows it
(`talker_relayed_iff`).
-/
import AvbSwitch.MsrpReceive
import AvbSwitch.PduRegion

namespace Msrp

open Octets

variable {n : ℕ} {signed : Bool} {p : SendBuffer} {info : StreamInfo} {v w : ℕ → UInt8}
  {t t' : State n} {i : Fin 10} {k num vector : ℕ}

/-! ### A fresh message -/

/-- A new Talker Advertise message at the end of the buffer, with the stream merged into it. -/
def freshTalker (signed : Bool) (p : SendBuffer) (info : StreamInfo) (vector : ℕ) : Bool × SendBuffer :=
  mergeTalkerMessage signed (createEmptyMsg p .talkerAdvertise 0) info p.sendPtr vector

/-- Its first value. -/
def relayed (signed : Bool) (p : SendBuffer) (info : StreamInfo) (vector : ℕ) : ℕ → UInt8 :=
  firstValue (freshTalker signed p info vector).2.sendBuf p.sendPtr

/-- The header of an empty message. -/
theorem createEmptyMsg_header :
    (createEmptyMsg p .talkerAdvertise 0).sendBuf p.sendPtr =
        UInt8.ofNat (encodeAttrType .talkerAdvertise) ∧
      numberOfValuesLow (createEmptyMsg p .talkerAdvertise 0).sendBuf p.sendPtr = 0 ∧
      attributeLengthLength (createEmptyMsg p .talkerAdvertise 0).sendBuf p.sendPtr = 29 := by
  refine ⟨?_, ?_, ?_⟩
  · rw [createEmptyMsg]
    simp (disch := omega) only [put2, put_other, put_same]
  · rw [createEmptyMsg, numberOfValuesLow]
    simp (disch := omega) only [put_same]
    rfl
  · rw [createEmptyMsg, attributeLengthLength, get2]
    simp (disch := omega) only [put2, put_other, put_same]
    rfl

/-- **The stream information is what the first value holds.** -/
theorem relayed_holds (signed : Bool) (p : SendBuffer) (info : StreamInfo) (vector : ℕ) :
    Holds (freshTalker signed p info vector).2.sendBuf (p.sendPtr + 6) (talkerFirstValue info) := by
  obtain ⟨htype, hcount, hlen⟩ := createEmptyMsg_header (p := p)
  set q : SendBuffer := createEmptyMsg p .talkerAdvertise 0 with hq
  set filled : SendBuffer :=
    ⟨putTalkerFirstValue q.sendBuf (p.sendPtr + 6) info, q.sendPtr⟩ with hfilled
  have hmerged : (freshTalker signed p info vector).2 =
      bumpValues (mrpEncodeThreePackedEvent filled p.sendPtr vector .talkerAdvertise) p.sendPtr 0 := by
    rw [freshTalker, mergeTalkerMessage, if_neg (not_not.mpr htype)]
    dsimp only
    rw [hcount, if_pos rfl, if_pos rfl, if_pos rfl]
  have hcount' : numberOfValuesLow filled.sendBuf p.sendPtr = 0 := by
    rw [← hcount, numberOfValuesLow, numberOfValuesLow, hfilled]
    exact congrArg UInt8.toNat (putTalkerFirstValue_frame (Or.inl (by omega)))
  have hlen' : attributeLengthLength filled.sendBuf p.sendPtr = 29 := by
    rw [← hlen, attributeLengthLength, attributeLengthLength, hfilled, get2, get2]
    dsimp only
    rw [putTalkerFirstValue_frame (Or.inl (by omega)), putTalkerFirstValue_frame (Or.inl (by omega))]
  -- the event lies behind the first value, and so does the end mark
  have hholds : Holds filled.sendBuf (p.sendPtr + 6) (talkerFirstValue info) :=
    putTalkerFirstValue_holds _ _ _
  rw [hmerged, bumpValues, mrpEncodeThreePackedEvent, encodePackedEvent, hcount', hlen']
  refine hholds.frame fun k hlow hhigh => ?_
  rw [length_talkerFirstValue] at hhigh
  have hfv : firstValueLengths .talkerAdvertise = 25 := rfl
  rw [hfv]
  dsimp only
  rw [if_pos rfl]
  dsimp only
  simp (disch := omega) only [put2, put_other]
  split
  · rw [mymemmove_apply, if_neg (by omega)]
  · rfl

/-! ### The fields -/

/-- Octets of a number that has been loaded from them. -/
theorem ofNat_get2 {a : ℕ} :
    UInt8.ofNat (get2 v a / 256) = v a ∧ UInt8.ofNat (get2 v a) = v (a + 1) := by
  have h0 := (v a).toNat_lt
  have h1 := (v (a + 1)).toNat_lt
  constructor
  · rw [← UInt8.toNat_inj, UInt8.toNat_ofNat', get2]
    omega
  · rw [← UInt8.toNat_inj, UInt8.toNat_ofNat', get2]
    omega

/-- Of four octets the last two are kept. -/
theorem ofNat_get4 {a : ℕ} :
    UInt8.ofNat (get4 v a / 256) = v (a + 2) ∧ UInt8.ofNat (get4 v a) = v (a + 3) := by
  have h2 := (v (a + 2)).toNat_lt
  have h3 := (v (a + 2 + 1)).toNat_lt
  constructor
  · rw [← UInt8.toNat_inj, UInt8.toNat_ofNat', get4, get2, get2]
    omega
  · rw [← UInt8.toNat_inj, UInt8.toNat_ofNat', get4, get2, get2]
    show _ = (v (a + 2 + 1)).toNat
    omega

/-- Four octets that hold a number are loaded as this number. -/
theorem get4_of_holds {a x : ℕ} (hx : x < 4294967296)
    (h : Holds w a (octets2 (x / 65536)) ∧ Holds w (a + 2) (octets2 x)) : get4 w a = x := by
  obtain ⟨⟨h0, h1, -⟩, h2, h3, -⟩ := h
  rw [get4, get2, get2, h0, h1, h2, h3, UInt8.toNat_ofNat', UInt8.toNat_ofNat', UInt8.toNat_ofNat',
    UInt8.toNat_ofNat']
  omega

/-- What the fields of the first value `w` are that stands for a received `v`. -/
structure RelayedFrom (v w : ℕ → UInt8) : Prop where
  destMacAddr : ∀ k < 6, w (8 + k) = v (8 + k)
  vlanID : w 14 = v 14 ∧ w 15 = v 15
  tSpecMaxFrameSize : w 16 = v 18 ∧ w 17 = v 19
  tSpecMaxIntervalFrames : w 18 = v 20 ∧ w 19 = v 21
  tSpec : w 20 = v 20
  accumulatedLatency : get4 w 21 = (get4 v 21 + 1) % 4294967296

/-- The entry that a Talker Advertise is stored in. -/
theorem allocate_talker (h : vtssMsrpAllocateStream signed t .talkerAdvertise v num = some (t', i)) :
    ∃ s, t'.streamInfoVars i = talkerInfo .talkerAdvertise v s := by
  obtain ⟨j, -, hj⟩ := Option.map_eq_some_iff.mp h
  obtain ⟨rfl, rfl⟩ := Prod.mk.inj hj
  exact ⟨_, Function.update_self ..⟩

theorem holds_ofFn {n a : ℕ} {f : Fin n → UInt8} (h : Holds w a (Vector.ofFn f).toList) (i : Fin n) :
    w (a + i) = f i := by
  have hi : (i : ℕ) < (Vector.ofFn f).toList.length := by
    rw [Vector.length_toList]
    exact i.isLt
  rw [h.getElem hi]
  simp

/-- **What a received Talker becomes.**  Each of the two sizes is what follows it on the wire. -/
theorem relayed_from (p : SendBuffer) (vector : ℕ)
    (h : vtssMsrpAllocateStream signed t .talkerAdvertise v num = some (t', i)) :
    RelayedFrom v (relayed signed p (t'.streamInfoVars i) vector) := by
  obtain ⟨s, hs⟩ := allocate_talker h
  set info := t'.streamInfoVars i with hinfo
  have hholds : Holds (relayed signed p info vector) 0 (talkerFirstValue info) :=
    (relayed_holds signed p info vector).moved fun k _ => by
      rw [Nat.zero_add]
      rfl
  have haddrlen : info.addr.toList.length = 6 := Vector.length_toList
  rw [talkerFirstValue] at hholds
  simp only [holds_append, List.length_append, length_streamIdOctets, haddrlen, length_octets2,
    List.length_singleton, Nat.zero_add, Nat.reduceAdd] at hholds
  obtain ⟨⟨⟨⟨⟨⟨-, haddr⟩, hvlan⟩, hsize⟩, hframes⟩, htspec⟩, hlatency⟩ := hholds
  have hstored := hs
  rw [talkerInfo, if_neg AttributeType.noConfusion] at hstored
  rw [show info.addr = Vector.ofFn fun j : Fin 6 => v (8 + j) by rw [hstored]] at haddr
  rw [show info.vlan = UInt32.ofNat (get2 v 14) by rw [hstored]] at hvlan
  rw [show info.maxframesize = UInt32.ofNat (get4 v 16) by rw [hstored]] at hsize
  rw [show info.maxintframes = UInt32.ofNat (get4 v 18) by rw [hstored]] at hframes
  rw [show info.tspec = v 20 by rw [hstored]] at htspec
  rw [show info.accumulatedLatency = UInt32.ofNat (get4 v 21) by rw [hstored]] at hlatency
  constructor
  · intro k hk
    have hoctet := holds_ofFn haddr ⟨k, hk⟩
    exact hoctet
  · have hvid : (UInt32.ofNat (get2 v 14)).toNat = get2 v 14 := by
      rw [UInt32.toNat_ofNat']
      exact Nat.mod_eq_of_lt (lt_trans (get2_lt v 14) (by norm_num))
    rw [hvid] at hvlan
    exact ⟨hvlan.1.trans ofNat_get2.1, hvlan.2.1.trans ofNat_get2.2⟩
  · rw [UInt32.toNat_ofNat', Nat.mod_eq_of_lt (get4_lt v _)] at hsize
    exact ⟨hsize.1.trans ofNat_get4.1, hsize.2.1.trans ofNat_get4.2⟩
  · rw [UInt32.toNat_ofNat', Nat.mod_eq_of_lt (get4_lt v _)] at hframes
    exact ⟨hframes.1.trans ofNat_get4.1, hframes.2.1.trans ofNat_get4.2⟩
  · exact htspec.1
  · rw [get4_of_holds (UInt32.toNat_lt _) hlatency, UInt32.toNat_add, UInt32.toNat_ofNat',
      Nat.mod_eq_of_lt (get4_lt v _)]
    rfl

/-- The traffic description of `v`, one hop further. -/
structure SameTraffic (v w : ℕ → UInt8) : Prop where
  destMacAddr : ∀ k < 6, w (8 + k) = v (8 + k)
  vlanID : w 14 = v 14 ∧ w 15 = v 15
  tSpecMaxFrameSize : w 16 = v 16 ∧ w 17 = v 17
  tSpecMaxIntervalFrames : w 18 = v 18 ∧ w 19 = v 19
  tSpec : w 20 = v 20
  accumulatedLatency : get4 w 21 = (get4 v 21 + 1) % 4294967296

/-- **A bridge relays the traffic description** if and only if the frame size, the number of frames
and the two octets behind them are the same on the wire. -/
theorem talker_relayed_iff (signed : Bool) (t t' : State n) (i : Fin 10) (v : ℕ → UInt8) (num : ℕ)
    (p : SendBuffer) (vector : ℕ)
    (h : vtssMsrpAllocateStream signed t .talkerAdvertise v num = some (t', i)) :
    SameTraffic v (relayed signed p (t'.streamInfoVars i) vector) ↔
      (v 16 = v 18 ∧ v 17 = v 19) ∧ v 18 = v 20 ∧ v 19 = v 21 := by
  have hrelayed := relayed_from p vector h
  constructor
  · intro hsame
    have hsize := hsame.tSpecMaxFrameSize
    have hframes := hsame.tSpecMaxIntervalFrames
    rw [hrelayed.tSpecMaxFrameSize.1, hrelayed.tSpecMaxFrameSize.2] at hsize
    rw [hrelayed.tSpecMaxIntervalFrames.1, hrelayed.tSpecMaxIntervalFrames.2] at hframes
    exact ⟨⟨hsize.1.symm, hsize.2.symm⟩, hframes.1.symm, hframes.2.symm⟩
  · rintro ⟨⟨h16, h17⟩, h18, h19⟩
    exact ⟨hrelayed.destMacAddr, hrelayed.vlanID,
      ⟨hrelayed.tSpecMaxFrameSize.1.trans h16.symm, hrelayed.tSpecMaxFrameSize.2.trans h17.symm⟩,
      ⟨hrelayed.tSpecMaxIntervalFrames.1.trans h18.symm,
        hrelayed.tSpecMaxIntervalFrames.2.trans h19.symm⟩,
      hrelayed.tSpec, hrelayed.accumulatedLatency⟩

/-- A received Talker with the last octets of the two sizes, TSpec and the first octet of the
latency. -/
def receivedTalker (size frames tspec latency : UInt8) : ℕ → UInt8 := fun k =>
  if k = 17 then size else if k = 19 then frames else if k = 20 then tspec
  else if k = 21 then latency else 0

/-- Where all the last octets are the same the description is relayed. -/
theorem talker_relayed_even :
    ∃ (t' : State 1) (i : Fin 10),
      vtssMsrpAllocateStream true (State.idle 1) .talkerAdvertise (receivedTalker 5 5 0 5) 0 =
          some (t', i) ∧
        SameTraffic (receivedTalker 5 5 0 5)
          (relayed true ⟨fun _ => 0, firstMsg⟩ (t'.streamInfoVars i) 0) := by
  have hstored : (vtssMsrpAllocateStream true (State.idle 1) .talkerAdvertise
      (receivedTalker 5 5 0 5) 0).isSome = true := by decide +kernel
  obtain ⟨⟨t', i⟩, h⟩ := Option.isSome_iff_exists.mp hstored
  exact ⟨t', i, h, (talker_relayed_iff true (State.idle 1) t' i (receivedTalker 5 5 0 5) 0
    ⟨fun _ => 0, firstMsg⟩ 0 h).mpr (by decide)⟩

/-- A Talker with frames of 84 octets, one in each interval, is relayed with frames of one octet. -/
theorem talker_not_relayed :
    ∃ (t' : State 1) (i : Fin 10),
      vtssMsrpAllocateStream true (State.idle 1) .talkerAdvertise (receivedTalker 84 1 0x70 0) 0 =
          some (t', i) ∧
        ¬ SameTraffic (receivedTalker 84 1 0x70 0)
          (relayed true ⟨fun _ => 0, firstMsg⟩ (t'.streamInfoVars i) 0) := by
  have hoctet : (vtssMsrpAllocateStream true (State.idle 1) .talkerAdvertise
      (receivedTalker 84 1 0x70 0) 0).map (fun r =>
        relayed true ⟨fun _ => 0, firstMsg⟩ (r.1.streamInfoVars r.2) 0 17) = some 1 := by
    decide +kernel
  obtain ⟨⟨t', i⟩, h, hone⟩ := Option.map_eq_some_iff.mp hoctet
  refine ⟨t', i, h, fun hsame => ?_⟩
  have heighty : relayed true ⟨fun _ => 0, firstMsg⟩ (t'.streamInfoVars i) 0 17 = 84 :=
    hsame.tSpecMaxFrameSize.2
  exact absurd (hone.symm.trans heighty) (by decide)

end Msrp
