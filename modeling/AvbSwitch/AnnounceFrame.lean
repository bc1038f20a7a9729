/-
Sending an Announce message: `transmit_announce`.

The frame is built from the vector that `gmPriority` points to, from the system-wide time
properties and path trace, and from the identity in the system properties, which is taken
for a MAC address and expanded (`announcedIdentity`), although it is expanded already.

* `transmitAnnounce_isSome_iff` — the path trace is read inside its array;
* `transmitAnnounce_announces` — the fields of the frame that is sent.
-/
import AvbSwitch.FrameFields
import AvbSwitch.PdelayMachine

open Octets

namespace Gptp

/-! ### The function -/

/-- What `transmit_announce` reads and writes beside the variables of the announce machines. -/
structure AnnounceTx (n : ℕ) where
  /-- `properties.grandmasterIdentity` -/
  grandmasterIdentity : ClockIdentity
  usPortNumber : Fin n → UInt16
  announceSequenceId : Fin n → UInt16
  /-- `ptp_tx_buf` behind the Ethernet header -/
  ptpTxBuf : Mem

/-- `HOST2NETS`. -/
def host2Nets (bigEndian : Bool) (v : ℕ) : ℕ :=
  if bigEndian then v else v % 256 * 256 + v / 256 % 256

/-- Two octets in memory as a number of the host. -/
def Short.load (bigEndian : Bool) (s : Short) : ℕ :=
  if bigEndian then s.hi.toNat * 256 + s.lo.toNat else s.lo.toNat * 256 + s.hi.toNat

/-- `UNAL_HOST2NETS`. -/
def unalHost2Nets (bigEndian : Bool) (s : Short) : ℕ := host2Nets bigEndian (s.load bigEndian)

/-- The first six octets of `g`, expanded like a MAC address. -/
def announcedIdentity (g : ClockIdentity) : ClockIdentity :=
  #v[g[0], g[1], g[2], 0xFF, 0xFE, g[3], g[4], g[5]]

/-- The lowest bit of a flag, at its place in the octet. -/
def flagBit (flag place : UInt8) : UInt8 := (flag &&& 0x1) <<< place

/-- `flagField[1]`, with `PTP_TIMESCALE` set. -/
def announceFlags {n : ℕ} (t : Gptpm n) : UInt8 :=
  flagBit t.leap61 0 ||| flagBit t.leap59 1 ||| flagBit t.currentUtcOffsetValid 2 |||
    flagBit 1 3 ||| flagBit t.timeTraceable 4 ||| flagBit t.frequencyTraceable 5

/-- The common header and the Announce message, from `memset` to the TLV length. -/
def announceHeader {n : ℕ} (host : Host) (t : Gptpm n) (tx : AnnounceTx n) (p : Fin n) : Mem :=
  let identity := t.gmPriorityVector.rootSystemIdentity
  let m := fill tx.ptpTxBuf 0 0 68
  let m := put m 0 (0x10 ||| 0x0B)
  let m := put m 1 2
  let m := put2 m 2 (34 + 34 + 8 * t.pathTraceLength)
  let m := put m 7 (announceFlags t)
  let m := put m 6 0x2
  -- octets 3 and 4 of what is stored there are FF-FE already
  let m := putList m 20 (announcedIdentity tx.grandmasterIdentity).toList
  let m := put2 m 28 (tx.usPortNumber p).toNat
  let m := put2 m 30 (tx.announceSequenceId p).toNat
  let m := put m 32 0x05
  let m := put m 33 (t.ports p).currentLogAnnounceInterval.toUInt8
  let m := put2 m 44 t.currentUtcOffset.toNat
  let m := put m 47 identity.priority1
  let m := put m 48 identity.clockClass
  let m := put m 49 identity.clockAccuracy
  let m := put2 m 50 (unalHost2Nets host.bigEndian identity.offsetScaledLogVariance)
  let m := put m 52 identity.priority2
  let m := putList m 53 identity.clockIdentity.toList
  -- not the hop count of the vector
  let m := put2 m 61 t.masterStepsRemoved.toNat
  let m := put m 63 t.timeSource.toUInt8
  let m := put2 m 64 (host2Nets host.bigEndian 0x8)
  put2 m 66 (host2Nets host.bigEndian (8 * t.pathTraceLength))

/-- `pathTrace[i]`; there is none behind the end of the array. -/
def Gptpm.pathTraceEntry {n : ℕ} (t : Gptpm n) (i : ℕ) : Option ClockIdentity :=
  if h : i < maxPathTrace then some (t.pathTrace ⟨i, h⟩) else none

/-- The loop that puts in the path trace TLV, for the first `k` entries. -/
def putPathTrace {n : ℕ} (t : Gptpm n) (m : Mem) : ℕ → Option Mem
  | 0 => some m
  | k + 1 =>
    (putPathTrace t m k).bind fun m =>
      (t.pathTraceEntry k).map fun c => putList m (68 + 8 * k) c.toList

/-- `ptpex_os_tx_frame`, with a frame of `len` octets behind the Ethernet header. -/
def ptpexOsTxFrame (frame : Mem) (len : ℕ) : Mem := putList frame len [0x55, 0x55, 0x55, 0x55]

/-- The sequence number of a port is counted up. -/
def AnnounceTx.countUp {n : ℕ} (tx : AnnounceTx n) (p : Fin n) : AnnounceTx n :=
  { tx with
    announceSequenceId := Function.update tx.announceSequenceId p (tx.announceSequenceId p + 1) }

/-- `transmit_announce`.  The frame is what it leaves in `ptp_tx_buf`. -/
def transmitAnnounce {n : ℕ} (host : Host) (clock : Clock) (t : Gptpm n) (tx : AnnounceTx n)
    (p : Fin n) : Option (AnnounceTx n) :=
  (putPathTrace t (announceHeader host t (tx.countUp p) p) t.pathTraceLength).map fun m =>
    let presentTime := getRtcTime host.bigEndian clock.timeSinceBoot clock.leftover
    let m := putList m 34 (putTimestamp host.bigEndian presentTime)
    { tx.countUp p with ptpTxBuf := ptpexOsTxFrame m (34 + 34 + 8 * t.pathTraceLength) }

/-! ### The path trace -/

variable {n : ℕ} {host : Host} {clock : Clock} {t : Gptpm n} {tx tx' : AnnounceTx n} {p : Fin n}
  {m m' : Mem} {i k a v : ℕ} {bigEndian : Bool} {s : Short}

theorem putPathTrace_isSome_iff : (putPathTrace t m k).isSome ↔ k ≤ maxPathTrace := by
  induction k with
  | zero => exact iff_of_true rfl (Nat.zero_le _)
  | succ k ih =>
    rw [putPathTrace]
    match hm : putPathTrace t m k with
    | none =>
      rw [hm] at ih
      have hk : ¬ k ≤ maxPathTrace := fun hk => absurd (ih.mpr hk) nofun
      exact iff_of_false nofun (by omega)
    | some m₁ =>
      show ((t.pathTraceEntry k).map _).isSome ↔ _
      rw [Option.isSome_map, Gptpm.pathTraceEntry]
      split
      case isTrue h => exact iff_of_true rfl h
      case isFalse h => exact iff_of_false nofun h

theorem putPathTrace_frame (h : putPathTrace t m k = some m') (ha : a < 68 ∨ 68 + 8 * k ≤ a) :
    m' a = m a := by
  induction k generalizing m' with
  | zero => exact congrFun (Option.some_inj.mp h).symm a
  | succ k ih =>
    obtain ⟨m₁, hm₁, hentry⟩ := Option.bind_eq_some_iff.mp h
    obtain ⟨c, -, rfl⟩ := Option.map_eq_some_iff.mp hentry
    rw [putList_frame (by rw [Vector.length_toList]; omega), ih hm₁ (by omega)]

/-- Each entry is where a receiver looks for it. -/
theorem putPathTrace_entry (h : putPathTrace t m k = some m') (hi : i < k) :
    t.pathTraceEntry i = some (rxPathTrace m' i) := by
  induction k generalizing m' with
  | zero => exact absurd hi (Nat.not_lt_zero i)
  | succ k ih =>
    obtain ⟨m₁, hm₁, hentry⟩ := Option.bind_eq_some_iff.mp h
    obtain ⟨c, hc, rfl⟩ := Option.map_eq_some_iff.mp hentry
    rw [rxPathTrace]
    rcases Nat.lt_succ_iff_lt_or_eq.mp hi with hlt | rfl
    -- an entry before the last one is not touched by it
    · rw [clockIdentityAt_putList (by omega)]
      exact ih hm₁ hlt
    · rw [clockIdentityAt_putList_same, hc]

theorem transmitAnnounce_isSome_iff :
    (transmitAnnounce host clock t tx p).isSome ↔ t.pathTraceLength ≤ maxPathTrace := by
  rw [transmitAnnounce, Option.isSome_map, putPathTrace_isSome_iff]

/-- What lies behind the trailing octets is not written. -/
theorem transmitAnnounce_frame (h : transmitAnnounce host clock t tx p = some tx')
    (ha : 34 + 34 + 8 * t.pathTraceLength + 4 ≤ a) : tx'.ptpTxBuf a = tx.ptpTxBuf a := by
  obtain ⟨m, hm, rfl⟩ := Option.map_eq_some_iff.mp h
  have hts := @putTimestamp_length host.bigEndian
    (getRtcTime host.bigEndian clock.timeSinceBoot clock.leftover)
  have hroot := t.gmPriorityVector.rootSystemIdentity.clockIdentity.length_toList
  have hid := (announcedIdentity (tx.countUp p).grandmasterIdentity).length_toList
  have hheader : announceHeader host t (tx.countUp p) p a = tx.ptpTxBuf a := by
    have hfill : (List.replicate 68 (0 : UInt8)).length = 68 := List.length_replicate
    -- all of these are stored below octet 68
    rw [announceHeader, fill]
    simp (disch := omega) only [put_other, put2_of_ge, putList_of_ge]
    rfl
  -- then come the entries, the timestamp and the trailing octets
  show putList (putList m 34 _) _ [0x55, 0x55, 0x55, 0x55] a = _
  rw [putList_of_ge ha, putList_of_ge (by omega), putPathTrace_frame hm (by omega), hheader]

/-! ### The fields -/

theorem unalHost2Nets_eq : unalHost2Nets bigEndian s = s.get := by
  have hhi := s.hi.toNat_lt
  have hlo := s.lo.toNat_lt
  rw [unalHost2Nets, host2Nets, Short.load, Short.get]
  cases bigEndian
  · simp only [Bool.false_eq_true, if_false]
    omega
  · rfl

/-- A length of sixteen bits is read as the host has it. -/
theorem tlvLength_of_shortAt (h : shortAt m 66 = Short.put (host2Nets bigEndian v))
    (hv : v < 65536) : tlvLength bigEndian m = v := by
  obtain ⟨h66, h67⟩ := Short.mk.inj h
  rw [tlvLength, get2, show 66 + 1 = 67 from rfl, h66, show m 67 = _ from h67, UInt8.toNat_ofNat',
    UInt8.toNat_ofNat', host2Nets]
  cases bigEndian
  · -- the octets are exchanged twice
    have hhi : (v % 256 * 256 + v / 256 % 256) / 256 = v % 256 := by omega
    have hlo : (v % 256 * 256 + v / 256 % 256) % 256 = v / 256 := by omega
    simp only [Bool.false_eq_true, if_false, hhi, hlo]
    omega
  · simp only [if_true]
    omega

/-- The fields of an Announce frame, as they are announced. -/
structure Announces (bigEndian : Bool) (t : Gptpm n) (tx : AnnounceTx n) (p : Fin n) (m : Mem) :
    Prop where
  source : getSourcePortId m =
    ⟨announcedIdentity tx.grandmasterIdentity, .put (tx.usPortNumber p).toNat⟩
  root : ∀ q, (extractAnnounce m q).rootSystemIdentity = t.gmPriorityVector.rootSystemIdentity
  stepsRemoved : shortAt m 61 = .put t.masterStepsRemoved.toNat
  flags : m 7 = announceFlags t
  currentUtcOffset : shortAt m 44 = .put t.currentUtcOffset.toNat
  timeSource : m 63 = t.timeSource.toUInt8
  tlvLength : tlvLength bigEndian m = 8 * t.pathTraceLength
  pathTrace : ∀ i < t.pathTraceLength, t.pathTraceEntry i = some (rxPathTrace m i)

theorem announceHeader_source : getSourcePortId (announceHeader host t tx p) =
    ⟨announcedIdentity tx.grandmasterIdentity, .put (tx.usPortNumber p).toNat⟩ := by
  have hroot := t.gmPriorityVector.rootSystemIdentity.clockIdentity.length_toList
  rw [getSourcePortId, announceHeader]
  simp (disch := omega) only [clockIdentityAt_putList, clockIdentityAt_put, clockIdentityAt_put2,
    clockIdentityAt_putList_same, shortAt_putList, shortAt_put, shortAt_put2, shortAt_put2_same]

theorem announceHeader_root (q : ℕ) :
    (extractAnnounce (announceHeader host t tx p) q).rootSystemIdentity =
      t.gmPriorityVector.rootSystemIdentity := by
  have hroot := t.gmPriorityVector.rootSystemIdentity.clockIdentity.length_toList
  rw [extractAnnounce, announceHeader]
  simp (disch := omega) only [clockIdentityAt_put, clockIdentityAt_put2,
    clockIdentityAt_putList_same, shortAt_putList, shortAt_put, shortAt_put2, shortAt_put2_same,
    put_same, put_other, put2_of_lt, putList_frame, unalHost2Nets_eq, Short.put_get]

theorem announceHeader_shorts :
    shortAt (announceHeader host t tx p) 61 = .put t.masterStepsRemoved.toNat ∧
      shortAt (announceHeader host t tx p) 44 = .put t.currentUtcOffset.toNat ∧
      shortAt (announceHeader host t tx p) 66 =
        .put (host2Nets host.bigEndian (8 * t.pathTraceLength)) := by
  have hroot := t.gmPriorityVector.rootSystemIdentity.clockIdentity.length_toList
  rw [announceHeader]
  refine ⟨?_, ?_, ?_⟩ <;>
    simp (disch := omega) only [shortAt_putList, shortAt_put, shortAt_put2, shortAt_put2_same]

theorem announceHeader_octets :
    announceHeader host t tx p 7 = announceFlags t ∧
      announceHeader host t tx p 63 = t.timeSource.toUInt8 := by
  have hroot := t.gmPriorityVector.rootSystemIdentity.clockIdentity.length_toList
  have hid := (announcedIdentity tx.grandmasterIdentity).length_toList
  rw [announceHeader]
  refine ⟨?_, ?_⟩ <;>
    simp (disch := omega) only [put_same, put_other, put2_of_lt, putList_frame]

/-- The fields outside the timestamp and the path trace are those of the header. -/
theorem Announces.of_header (hlen : t.pathTraceLength ≤ maxPathTrace)
    (hm : ∀ a, a < 34 ∨ 44 ≤ a ∧ a < 68 → m a = announceHeader host t tx p a)
    (hpath : ∀ i < t.pathTraceLength, t.pathTraceEntry i = some (rxPathTrace m i)) :
    Announces host.bigEndian t tx p m where
  source := by
    rw [← @announceHeader_source n host t tx p, getSourcePortId, getSourcePortId]
    rw [clockIdentityAt_congr fun k hk hk' => hm k (by omega),
      shortAt_congr fun k hk hk' => hm k (by omega)]
  root q := by
    rw [← @announceHeader_root n host t tx p q, extractAnnounce, extractAnnounce]
    rw [clockIdentityAt_congr fun k hk hk' => hm k (by omega),
      shortAt_congr fun k hk hk' => hm k (by omega), hm 47 (by omega), hm 48 (by omega),
      hm 49 (by omega), hm 52 (by omega)]
  stepsRemoved :=
    (shortAt_congr fun k hk hk' => hm k (by omega)).trans announceHeader_shorts.1
  flags := (hm 7 (by omega)).trans announceHeader_octets.1
  currentUtcOffset :=
    (shortAt_congr fun k hk hk' => hm k (by omega)).trans announceHeader_shorts.2.1
  timeSource := (hm 63 (by omega)).trans announceHeader_octets.2
  tlvLength := by
    have hshort := (shortAt_congr fun k hk hk' => hm k (by omega)).trans
      (@announceHeader_shorts n host t tx p).2.2
    refine tlvLength_of_shortAt hshort ?_
    rw [maxPathTrace] at hlen
    omega
  pathTrace := hpath

/-- **The frame that is sent announces the instance.** -/
theorem transmitAnnounce_announces (h : transmitAnnounce host clock t tx p = some tx') :
    Announces host.bigEndian t (tx.countUp p) p tx'.ptpTxBuf := by
  obtain ⟨m, hm, rfl⟩ := Option.map_eq_some_iff.mp h
  have hlen : t.pathTraceLength ≤ maxPathTrace :=
    putPathTrace_isSome_iff.mp (Option.isSome_iff_exists.mpr ⟨m, hm⟩)
  have hts := @putTimestamp_length host.bigEndian
    (getRtcTime host.bigEndian clock.timeSinceBoot clock.leftover)
  refine Announces.of_header hlen (fun a ha => ?_) fun i hi => ?_
  · -- neither the timestamp nor the trailing octets are here
    show putList (putList m 34 _) _ _ a = _
    rw [putList_frame (by omega), putList_frame (by omega), putPathTrace_frame hm (by omega)]
  · rw [putPathTrace_entry hm hi, rxPathTrace, rxPathTrace]
    show _ = some (clockIdentityAt (putList (putList m 34 _) _ [0x55, 0x55, 0x55, 0x55]) _)
    rw [clockIdentityAt_putList (by omega), clockIdentityAt_putList (by omega)]

/-! ### The sender -/

variable {mac : Vector UInt8 6}

/-- The identity and the port numbers are those that `gptp_sw_init` sets. -/
structure AnnounceTx.Configured (mac : Vector UInt8 6) (tx : AnnounceTx n) : Prop where
  grandmasterIdentity : tx.grandmasterIdentity = clockIdentityOf mac
  usPortNumber : ∀ i, tx.usPortNumber i = UInt16.ofNat (i + 1)

/-- `gptp_sw_init`, with what the buffer holds. -/
def AnnounceTx.swInit (n : ℕ) (mac : Vector UInt8 6) (ptpTxBuf : Mem) : AnnounceTx n where
  grandmasterIdentity := clockIdentityOf mac
  usPortNumber i := UInt16.ofNat (i + 1)
  announceSequenceId _ := 0
  ptpTxBuf := ptpTxBuf

theorem AnnounceTx.swInit_configured {ptpTxBuf : Mem} :
    (AnnounceTx.swInit n mac ptpTxBuf).Configured mac :=
  ⟨rfl, fun _ => rfl⟩

/-- Nothing that is sent changes them. -/
theorem AnnounceTx.Configured.transmitAnnounce (hc : tx.Configured mac)
    (h : transmitAnnounce host clock t tx p = some tx') : tx'.Configured mac := by
  obtain ⟨m, -, rfl⟩ := Option.map_eq_some_iff.mp h
  exact ⟨hc.grandmasterIdentity, hc.usPortNumber⟩

end Gptp
