/-
Which streams `merge_talker_message` merges into a Talker Advertise message.

A message that holds `n` values stands for its first value and the `n - 1` successors of it, so that
one more stream may be merged only if it is the `n`-th successor: `Successor`.

`check_talker_merge` compares the address, the StreamID, the VLAN and the frame size, and one
comparison that succeeds is enough (`Comparison`).  The count it adds is the low octet of the number
of values; where this octet is 0 nothing is compared and the first value is written again.  So a
successor is always merged, and so are many others.
-/
import AvbSwitch.SendBuffer
import AvbSwitch.OctetOrder

namespace Msrp

open Octets OctetOrder

variable {signed : Bool} {p : SendBuffer} {info : StreamInfo} {m : Mem} {fv : ℕ → UInt8}
  {buf k n vector : ℕ}

/-! ### Messages and successors -/

/-- A Talker Advertise message that holds `n` values; its header has the low octet of `n` where the
encoder looks for the count. -/
structure HoldsTalkers (m : Mem) (buf n : ℕ) : Prop where
  attributeType : m buf = UInt8.ofNat (encodeAttrType .talkerAdvertise)
  count : numberOfValuesLow m buf = n % 256

/-- The number that `k` octets of a first value stand for. -/
def fieldValue (fv : ℕ → UInt8) (a k : ℕ) : ℕ := value (List.ofFn fun i : Fin k => fv (a + i))

/-- The stream is the `n`-th successor of the first value `fv`. -/
structure Successor (info : StreamInfo) (fv : ℕ → UInt8) (n : ℕ) : Prop where
  id : info.id0.toNat * 4294967296 + info.id1.toNat = (fieldValue fv 0 8 + n) % 18446744073709551616
  addr : value info.addr.toList = (fieldValue fv 8 6 + n) % 281474976710656
  vlan : info.vlan.toNat = fieldValue fv 14 2
  maxframesize : info.maxframesize.toNat = fieldValue fv 16 2

/-- An octet of the address, as the plain `char` that it is. -/
def StreamInfo.addrChar (info : StreamInfo) (signed : Bool) (i : ℕ) : ℤ :=
  charVal signed (info.addr.toList.getD i 0)

/-- The four comparisons, for a message whose count has the low octet `k`. -/
inductive Comparison (signed : Bool) (info : StreamInfo) (fv : ℕ → UInt8) (k : ℕ) : Prop
  | addr
      (high : (info.addrChar signed 0 * 16777216 + info.addrChar signed 1 * 65536 +
        info.addrChar signed 2 * 256 + info.addrChar signed 3) % 4294967296 = fieldValue fv 8 4)
      (low : (info.addrChar signed 4 * 256 + info.addrChar signed 5) % 4294967296 =
        fieldValue fv 12 2 + k)
  | id (high : info.id0.toNat = fieldValue fv 0 4)
      (low : info.id1.toNat = (fieldValue fv 4 4 + k) % 4294967296)
  | vlan (eq : info.vlan.toNat = fieldValue fv 14 2)
  | maxframesize (eq : info.maxframesize.toNat = fieldValue fv 16 2)

/-! ### The comparisons of `check_talker_merge` -/

theorem fieldValue_two {a : ℕ} :
    fieldValue fv a 2 = (fv a).toNat * 256 + (fv (a + 1)).toNat := by
  simp [fieldValue, value, List.ofFn_succ]

theorem fieldValue_four {a : ℕ} : fieldValue fv a 4 = (fv a).toNat * 16777216 +
    (fv (a + 1)).toNat * 65536 + (fv (a + 2)).toNat * 256 + (fv (a + 3)).toNat := by
  simp [fieldValue, value, List.ofFn_succ]
  ring

theorem shiftIn_octetWord {a : ℕ} :
    (shiftIn (octetWord (fv a)) (octetWord (fv (a + 1))) (octetWord (fv (a + 2)))
      (octetWord (fv (a + 3)))).toNat = fieldValue fv a 4 := by
  have h0 := (fv a).toNat_lt
  have h1 := (fv (a + 1)).toNat_lt
  have h2 := (fv (a + 2)).toNat_lt
  have h3 := (fv (a + 3)).toNat_lt
  rw [shiftIn_toNat, octetWord_toNat, octetWord_toNat, octetWord_toNat, octetWord_toNat,
    fieldValue_four]
  exact Nat.mod_eq_of_lt (by omega)

theorem shiftIn_two {a : ℕ} :
    (shiftIn 0 0 (octetWord (fv a)) (octetWord (fv (a + 1)))).toNat = fieldValue fv a 2 := by
  have h0 := (fv a).toNat_lt
  have h1 := (fv (a + 1)).toNat_lt
  rw [shiftIn_toNat, octetWord_toNat, octetWord_toNat, fieldValue_two]
  simp only [UInt32.toNat_zero]
  omega

theorem shiftIn_ofInt (z0 z1 z2 z3 : ℤ) :
    ((shiftIn (.ofInt z0) (.ofInt z1) (.ofInt z2) (.ofInt z3)).toNat : ℤ) =
      (z0 * 16777216 + z1 * 65536 + z2 * 256 + z3) % 4294967296 := by
  rw [shiftIn_toNat, toNat_ofInt, toNat_ofInt, toNat_ofInt, toNat_ofInt]
  omega

/-- Two words are equal if their numbers are. -/
theorem word_eq_iff_cast {w v : UInt32} {z : ℤ} {a : ℕ} (hw : (w.toNat : ℤ) = z) (hv : v.toNat = a) :
    v = w ↔ z = a := by
  rw [← UInt32.toNat_inj, hv, ← hw]
  omega

theorem addr_comparison_iff (hk : k < 256) :
    ((addrWords fun i => octetWord (fv (8 + i))).1 =
        (addrWords fun i => charWord signed (info.addr.toList.getD i 0)).1 ∧
      (addrWords fun i => octetWord (fv (8 + i))).2 + UInt32.ofNat k =
        (addrWords fun i => charWord signed (info.addr.toList.getD i 0)).2) ↔
    (info.addrChar signed 0 * 16777216 + info.addrChar signed 1 * 65536 +
        info.addrChar signed 2 * 256 + info.addrChar signed 3) % 4294967296 = fieldValue fv 8 4 ∧
      (info.addrChar signed 4 * 256 + info.addrChar signed 5) % 4294967296 =
        fieldValue fv 12 2 + k := by
  have hlow : ((addrWords fun i => octetWord (fv (8 + i))).2 + UInt32.ofNat k).toNat =
      fieldValue fv 12 2 + k := by
    have hwords : (addrWords fun i => octetWord (fv (8 + i))).2.toNat = fieldValue fv 12 2 :=
      shiftIn_two
    have h12 := (fv 12).toNat_lt
    have h13 := (fv (12 + 1)).toNat_lt
    rw [UInt32.toNat_add, hwords, UInt32.toNat_ofNat', fieldValue_two]
    omega
  have hchars : ((addrWords fun i => charWord signed (info.addr.toList.getD i 0)).2.toNat : ℤ) =
      (info.addrChar signed 4 * 256 + info.addrChar signed 5) % 4294967296 := by
    have hshift := shiftIn_ofInt 0 0 (info.addrChar signed 4) (info.addrChar signed 5)
    rw [Int.zero_mul, Int.zero_mul, Int.zero_add, Int.zero_add] at hshift
    exact hshift
  refine and_congr ?_ ?_
  · exact word_eq_iff_cast (shiftIn_ofInt _ _ _ _) (@shiftIn_octetWord fv 8)
  · rw [word_eq_iff_cast hchars hlow, Nat.cast_add]

theorem id_comparison_iff :
    (info.id0 = (firstValueStreamID fv).1 ∧
      info.id1 = (firstValueStreamID fv).2 + UInt32.ofNat k) ↔
    info.id0.toNat = fieldValue fv 0 4 ∧
      info.id1.toNat = (fieldValue fv 4 4 + k) % 4294967296 := by
  have hhigh : (firstValueStreamID fv).1.toNat = fieldValue fv 0 4 := shiftIn_octetWord
  have hlow : (firstValueStreamID fv).2.toNat = fieldValue fv 4 4 := shiftIn_octetWord
  rw [← UInt32.toNat_inj, ← UInt32.toNat_inj, UInt32.toNat_add, hhigh, hlow, UInt32.toNat_ofNat',
    Nat.add_mod_mod]

/-- `check_talker_merge` in numbers. -/
theorem checkTalkerMerge_iff (hk : k < 256) :
    checkTalkerMerge signed info fv k = true ↔ Comparison signed info fv k := by
  have hvlan : (fv 14).toNat * 256 + (fv 15).toNat = info.vlan.toNat ↔
      info.vlan.toNat = fieldValue fv 14 2 := by
    rw [fieldValue_two]
    exact eq_comm
  have hsize : (fv 16).toNat * 256 + (fv 17).toNat = info.maxframesize.toNat ↔
      info.maxframesize.toNat = fieldValue fv 16 2 := by
    rw [fieldValue_two]
    exact eq_comm
  rw [checkTalkerMerge]
  simp only [addr_comparison_iff hk, id_comparison_iff, hvlan, hsize]
  constructor
  · intro h
    split at h
    case isTrue haddr => exact .addr haddr.1 haddr.2
    split at h
    case isTrue hid => exact .id hid.1 hid.2
    split at h
    case isTrue hvlan => exact .vlan hvlan
    split at h
    case isTrue hsize => exact .maxframesize hsize
    exact absurd h Bool.false_ne_true
  · intro h
    cases h with
    | addr high low => rw [if_pos ⟨high, low⟩]
    | id high low =>
      rw [if_pos (show _ ∧ _ from ⟨high, low⟩), ite_self]
    | vlan eq =>
      rw [if_pos eq, ite_self, ite_self]
    | maxframesize eq =>
      rw [if_pos eq, ite_self, ite_self, ite_self]

/-! ### The decision -/

/-- **What is merged.**  A message whose count has the low octet 0 takes any stream, and so does one
of the four comparisons. -/
theorem mergeTalkerMessage_merged_iff (h : HoldsTalkers p.sendBuf buf n) :
    (mergeTalkerMessage signed p info buf vector).1 = true ↔
      n % 256 = 0 ∨ Comparison signed info (firstValue p.sendBuf buf) (n % 256) := by
  rw [mergeTalkerMessage, if_neg (not_not.mpr h.attributeType)]
  dsimp only
  rw [h.count]
  by_cases hzero : n % 256 = 0
  · rw [if_pos hzero, if_pos rfl]
    exact iff_of_true rfl (Or.inl hzero)
  · rw [if_neg hzero, or_iff_right hzero, ← checkTalkerMerge_iff (Nat.mod_lt _ (by norm_num))]
    cases hcheck : checkTalkerMerge signed info (firstValue p.sendBuf buf) (n % 256) with
    | true =>
      rw [if_pos rfl]
    | false =>
      rw [if_neg Bool.false_ne_true]

/-- A message that takes no stream is left as it is. -/
theorem mergeTalkerMessage_unmerged
    (h : (mergeTalkerMessage signed p info buf vector).1 = false) :
    (mergeTalkerMessage signed p info buf vector).2 = p := by
  rw [mergeTalkerMessage] at h ⊢
  split
  · rfl
  · rename_i htype
    rw [if_neg htype] at h
    dsimp only at h ⊢
    generalize (if numberOfValuesLow p.sendBuf buf = 0 then true
      else checkTalkerMerge signed info (firstValue p.sendBuf buf)
        (numberOfValuesLow p.sendBuf buf)) = merge at h ⊢
    cases merge with
    | true => exact absurd h.symm Bool.false_ne_true
    | false => rfl

/-- The next successor is merged: it has the VLAN of the message. -/
theorem Successor.merged (hs : Successor info (firstValue p.sendBuf buf) n)
    (h : HoldsTalkers p.sendBuf buf n) :
    (mergeTalkerMessage signed p info buf vector).1 = true :=
  (mergeTalkerMessage_merged_iff h).mpr (Or.inr (.vlan hs.vlan))

/-- Only the next successor is merged, and nothing else changes the message. -/
structure TalkerMergeSound (signed : Bool) (p : SendBuffer) (info : StreamInfo)
    (buf n vector : ℕ) : Prop where
  merged : (mergeTalkerMessage signed p info buf vector).1 = true →
    Successor info (firstValue p.sendBuf buf) n
  unchanged : ¬ Successor info (firstValue p.sendBuf buf) n →
    (mergeTalkerMessage signed p info buf vector).2 = p

/-- **Talker merging is sound for one stream** if and only if this is the next successor, or the low
octet of the count is not 0 and the stream fails all the four comparisons. -/
theorem talkerMerge_sound_iff (signed : Bool) (p : SendBuffer) (info : StreamInfo)
    (buf n vector : ℕ) (h : HoldsTalkers p.sendBuf buf n) :
    TalkerMergeSound signed p info buf n vector ↔
      Successor info (firstValue p.sendBuf buf) n ∨
        (n % 256 ≠ 0 ∧ ¬ Comparison signed info (firstValue p.sendBuf buf) (n % 256)) := by
  rw [← not_or, ← @mergeTalkerMessage_merged_iff signed p info buf n vector h]
  constructor
  · intro hsound
    by_cases hmerged : (mergeTalkerMessage signed p info buf vector).1 = true
    · exact Or.inl (hsound.merged hmerged)
    · exact Or.inr hmerged
  · rintro (hs | hnot)
    · exact ⟨fun _ => hs, fun hno => absurd hs hno⟩
    · refine ⟨fun hmerged => absurd hmerged hnot, fun _ => ?_⟩
      exact mergeTalkerMessage_unmerged (Bool.eq_false_of_not_eq_true hnot)

/-- A message with the stream `(0, 0)` for the last group address. -/
def oneTalker : SendBuffer :=
  (mergeTalkerMessage true (createEmptyMsg ⟨fun _ => 0, firstMsg⟩ .talkerAdvertise 0)
    { StreamInfo.zero with addr := Vector.replicate 6 255, vlan := 2 } firstMsg 0).2

theorem oneTalker_holds : HoldsTalkers oneTalker.sendBuf firstMsg 1 :=
  ⟨by decide, by decide⟩

/-- The next stream is merged, and rightly. -/
theorem talkerMerge_sound_successor :
    TalkerMergeSound true oneTalker { StreamInfo.zero with id1 := 1, vlan := 2 } firstMsg 1 0 :=
  (talkerMerge_sound_iff true oneTalker { StreamInfo.zero with id1 := 1, vlan := 2 } firstMsg 1 0
    oneTalker_holds).mpr (Or.inl ⟨by decide, by decide, by decide, by decide⟩)

/-- Another stream on the same VLAN is merged as well. -/
theorem talkerMerge_takes_other :
    HoldsTalkers oneTalker.sendBuf firstMsg 1 ∧
      ¬ TalkerMergeSound true oneTalker { StreamInfo.zero with id0 := 7, vlan := 2 } firstMsg 1 0 := by
  refine ⟨oneTalker_holds, fun h => ?_⟩
  have hsuccessor := (h.merged (by decide)).id
  exact absurd hsuccessor (by decide)

end Msrp
