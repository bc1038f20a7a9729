/-
The intervals that Signaling messages set.

A message carries the logarithm of an interval as a signed octet, with two values set apart: -128
leaves the interval, 126 sets the initial one.  The two intervals are stored by switches that are
written alike, but one of them lacks a `break`, and one stores the logarithm in an unsigned word,
which `SIGNED_SHIFT` never finds negative.

* `processRxSignaling_of_takesSignals` — a message that is processed sets the intervals once;
* `SetsLogs` — what it is to leave; `StoresLogs` — the messages that leave it, in the state before;
* `signaling_setsLogs_iff` — in any sequence of messages, the ones are the others.
-/
import AvbSwitch.PdelayTermination
import AvbSwitch.Runs
import AvbSwitch.TimestampArithmetic

open Octets Runs

namespace Gptp

/-! ### The macros -/

/-- `SYNC_INTERVAL_TICKS`, whose shift is by an unsigned number.  To shift by the width of an `int`
or more is not defined, nor is it to shift a one into the sign. -/
def Port.syncIntervalTicksOf (pp : Port) : Option UInt32 :=
  if pp.currentLogSyncInterval ≤ 30 then some (UInt32.ofInt pp.syncIntervalTicks) else none

/-- One, shifted left or right. -/
def shiftedOne (b : ℤ) : UInt32 :=
  if 0 ≤ b then UInt32.ofNat (1 <<< b.toNat) else UInt32.ofNat (1 >>> (-b).toNat)

/-! ### What a message asks for -/

/-- The interval after a message with the value `v`. -/
def askedFor (v initial current : ℤ) : ℤ :=
  if v = -128 then current else if v = 126 then initial else v

/-- The two values of a message. -/
def linkDelayValue (m : Mem) : Int8 := (m signalingVariables).toInt8

def timeSyncValue (m : Mem) : Int8 := (m (signalingVariables + 1)).toInt8

/-- What a processed message leaves: the intervals that it asks for, and a port that reads them as
they are meant. -/
structure SetsLogs (m : Mem) (pp pp' : PdelayPort) : Prop where
  linkDelay : pp'.currentLogPdelayReqInterval.toInt =
    askedFor (linkDelayValue m).toInt pp.initialLogPdelayReqInterval.toInt
      pp.currentLogPdelayReqInterval.toInt
  timeSync : (pp'.currentLogSyncInterval.toNat : ℤ) =
    askedFor (timeSyncValue m).toInt pp.initialLogSyncInterval.toNat
      pp.currentLogSyncInterval.toNat
  cleared : pp'.rcvdSignalingMsg1 = false
  linkDelayTicks : ∀ b : ℤ, pp'.currentLogPdelayReqInterval.toInt = b → -30 ≤ b → b ≤ 30 →
    pp'.pdelayReqIntervalTicks = some (shiftedOne b)
  timeSyncTicks : ∀ b : ℤ, pp'.currentLogSyncInterval.toInt32.toInt = b → -30 ≤ b → b ≤ 30 →
    pp'.syncIntervalTicksOf = some (shiftedOne b)

/-- The word stands for a negative logarithm. -/
def NegativeLog (w : UInt32) : Prop := -30 ≤ w.toInt32.toInt ∧ w.toInt32.toInt < 0

/-- The message does not set the link delay interval to its initial value, unless that is 126, and
asks for a sync interval that is not negative. -/
structure StoresLogs (m : Mem) (pp : PdelayPort) : Prop where
  linkDelay : linkDelayValue m = 126 → pp.initialLogPdelayReqInterval = 126
  timeSync : timeSyncValue m ≠ -128 → 0 ≤ (timeSyncValue m).toInt
  initial : timeSyncValue m = 126 → ¬ NegativeLog pp.initialLogSyncInterval
  current : timeSyncValue m = -128 → ¬ NegativeLog pp.currentLogSyncInterval

/-- The port takes part, and LinkDelaySyncIntervalSetting has left its first state. -/
structure TakesSignals (pp : PdelayPort) : Prop where
  portEnabled : pp.portEnabled = true
  pttPortEnabled : pp.pttPortEnabled = true
  state : pp.linkDelaySyncIntervalSettingState ≠ .notEnabled

/-! ### Shifts -/

variable {pp pp' : PdelayPort} {m : Mem} {b : ℤ} {w : UInt32} {ms : List Mem}

theorem ofInt_natCast {n : ℕ} : UInt32.ofInt (n : ℤ) = UInt32.ofNat n := by
  rw [UInt32.ofInt, ← UInt32.toNat_inj, UInt32.toNat_ofNat', UInt32.toNat_ofNat']
  omega

/-- `SIGNED_SHIFT` of a one. -/
theorem signedShift_one : UInt32.ofInt (signedShift 1 b) = shiftedOne b := by
  rw [signedShift, shiftedOne]
  split
  · have hpow : (1 * 2 ^ b.toNat : ℤ) = ((1 <<< b.toNat : ℕ) : ℤ) := by
      rw [one_mul, Nat.one_shiftLeft]
      push_cast
      rfl
    rw [hpow]
    exact ofInt_natCast
  · have hdiv : (1 / 2 ^ (-b).toNat : ℤ) = ((1 >>> (-b).toNat : ℕ) : ℤ) := by
      rw [Nat.shiftRight_eq_div_pow]
      push_cast
      rfl
    rw [hdiv]
    exact ofInt_natCast

theorem pdelayReqIntervalTicks_of_log (hb : pp.currentLogPdelayReqInterval.toInt = b)
    (hlow : -30 ≤ b) (hhigh : b ≤ 30) : pp.pdelayReqIntervalTicks = some (shiftedOne b) := by
  have hrange : -31 ≤ pp.currentLogPdelayReqInterval ∧ pp.currentLogPdelayReqInterval ≤ 30 := by
    rw [Int8.le_iff_toInt_le, Int8.le_iff_toInt_le, hb]
    exact ⟨(by decide : (-31 : Int8).toInt ≤ -30).trans hlow, hhigh⟩
  rw [PdelayPort.pdelayReqIntervalTicks, if_pos hrange, hb]
  exact congrArg some signedShift_one

/-- The macro is evaluated as it is meant, unless the word stands for a negative logarithm. -/
theorem syncIntervalTicksOf_iff :
    (∀ b : ℤ, pp.currentLogSyncInterval.toInt32.toInt = b → -30 ≤ b → b ≤ 30 →
      pp.syncIntervalTicksOf = some (shiftedOne b)) ↔ ¬ NegativeLog pp.currentLogSyncInterval := by
  have hword := @toInt32_toInt pp.currentLogSyncInterval
  constructor
  · rintro hticks ⟨hlow, hneg⟩
    have hsome := hticks _ rfl hlow (by omega)
    rw [Port.syncIntervalTicksOf, if_neg] at hsome
    · cases hsome
    · -- the word is above 2 ^ 31
      intro hle
      have hnat : pp.currentLogSyncInterval.toNat ≤ 30 := UInt32.le_iff_toNat_le.mp hle
      rw [if_pos (by omega)] at hword
      omega
  · rintro hneg b rfl hlow hhigh
    have hnonneg : 0 ≤ pp.currentLogSyncInterval.toInt32.toInt := by
      by_contra hlt
      exact hneg ⟨hlow, by omega⟩
    have hlt := pp.currentLogSyncInterval.toNat_lt
    have hsmall : pp.currentLogSyncInterval.toNat < 2 ^ 31 := by
      by_contra hbig
      rw [if_neg hbig] at hword
      omega
    rw [if_pos hsmall] at hword
    have hle : pp.currentLogSyncInterval ≤ 30 := by
      refine UInt32.le_iff_toNat_le.mpr ?_
      show _ ≤ 30
      omega
    rw [Port.syncIntervalTicksOf, if_pos hle, Port.syncIntervalTicks, ← hword]
    exact congrArg some signedShift_one

/-! ### One message -/

/-- **A message that is processed** sets the intervals once. -/
theorem processRxSignaling_of_takesSignals (htakes : TakesSignals pp) :
    processRxSignaling m pp = some (linkDelaySyncIntervalSettingSetState
      { pp with rcvdSignalingPtr := m, rcvdSignalingMsg1 := true } .setIntervals) := by
  obtain ⟨hport, hptt, hstate⟩ := htakes
  rw [processRxSignaling, linkDelaySyncIntervalSettingStateMachine]
  simp only [hport, hptt, Bool.not_true, Bool.or_false, Bool.false_eq_true, if_false]
  -- from the last state the loop takes one turn, from the one before it two
  cases hlink : pp.linkDelaySyncIntervalSettingState with
  | notEnabled => exact absurd hlink hstate
  | initialized | setIntervals =>
    simp [linkDelaySyncIntervalSettingTurns, linkDelaySyncIntervalSettingTurn,
      linkDelaySyncIntervalSettingSetState]

theorem TakesSignals.setState (htakes : TakesSignals pp) :
    TakesSignals (linkDelaySyncIntervalSettingSetState
      { pp with rcvdSignalingPtr := m, rcvdSignalingMsg1 := true } .setIntervals) :=
  ⟨htakes.portEnabled, htakes.pttPortEnabled, LinkDelaySyncIntervalSettingState.noConfusion⟩

/-- What is stored in the unsigned word is the logarithm if it is not negative. -/
theorem toNat_toUInt32_eq_iff {v : Int8} :
    ((v.toInt32.toUInt32.toNat : ℕ) : ℤ) = v.toInt ↔ 0 ≤ v.toInt := by
  have hword := @toInt32_toInt v.toInt32.toUInt32
  rw [show v.toInt32.toUInt32.toInt32.toInt = v.toInt from Int8.toInt_toInt32 v] at hword
  have hlow := v.le_toInt
  have hhigh := v.toInt_lt
  have hlt := v.toInt32.toUInt32.toNat_lt
  split_ifs at hword <;> omega

/-- The case 126 of the link delay interval goes on to store the value itself. -/
theorem linkDelay_eq_iff {v initial current : Int8} :
    (if v = -128 then current else v).toInt = askedFor v.toInt initial.toInt current.toInt ↔
      (v = 126 → initial = 126) := by
  have h128 : v.toInt = -128 ↔ v = -128 := by rw [← Int8.toInt_inj]; rfl
  have h126 : v.toInt = 126 ↔ v = 126 := by rw [← Int8.toInt_inj]; rfl
  rw [askedFor]
  by_cases hkeep : v = -128
  · rw [if_pos hkeep, if_pos (h128.mpr hkeep)]
    refine iff_of_true rfl fun hinitial => ?_
    exact absurd (hkeep.symm.trans hinitial) (by decide)
  · rw [if_neg hkeep, if_neg (mt h128.mp hkeep)]
    by_cases hinitial : v = 126
    · rw [if_pos (h126.mpr hinitial), hinitial, Int8.toInt_inj]
      simp [eq_comm]
    · rw [if_neg (mt h126.mp hinitial)]
      exact iff_of_true rfl fun heq => absurd heq hinitial

/-- The word that is stored for the sync interval. -/
def syncStored (v : Int8) (initial current : UInt32) : UInt32 :=
  if v = -128 then current else if v = 126 then initial else v.toInt32.toUInt32

theorem syncStored_eq_iff {v : Int8} {initial current : UInt32} :
    ((syncStored v initial current).toNat : ℤ) = askedFor v.toInt initial.toNat current.toNat ↔
      (v ≠ -128 → 0 ≤ v.toInt) := by
  have h128 : v.toInt = -128 ↔ v = -128 := by rw [← Int8.toInt_inj]; rfl
  have h126 : v.toInt = 126 ↔ v = 126 := by rw [← Int8.toInt_inj]; rfl
  rw [syncStored, askedFor]
  by_cases hkeep : v = -128
  · rw [if_pos hkeep, if_pos (h128.mpr hkeep)]
    exact iff_of_true rfl fun hne => absurd hkeep hne
  · rw [if_neg hkeep, if_neg (mt h128.mp hkeep)]
    by_cases hinitial : v = 126
    · rw [if_pos hinitial, if_pos (h126.mpr hinitial)]
      refine iff_of_true rfl fun _ => ?_
      rw [hinitial]
      decide
    · rw [if_neg hinitial, if_neg (mt h126.mp hinitial), toNat_toUInt32_eq_iff]
      exact ⟨fun hnonneg _ => hnonneg, fun hnonneg => hnonneg hkeep⟩

/-- Where the value itself is stored and is not negative, the word is not a negative logarithm. -/
theorem not_negativeLog_syncStored_iff {v : Int8} {initial current : UInt32}
    (hnonneg : v ≠ -128 → 0 ≤ v.toInt) :
    ¬ NegativeLog (syncStored v initial current) ↔
      (v = 126 → ¬ NegativeLog initial) ∧ (v = -128 → ¬ NegativeLog current) := by
  rw [syncStored]
  by_cases hkeep : v = -128
  · rw [if_pos hkeep]
    refine ⟨fun h => ⟨fun hinitial => ?_, fun _ => h⟩, fun h => h.2 hkeep⟩
    exact absurd (hkeep.symm.trans hinitial) (by decide)
  · rw [if_neg hkeep]
    by_cases hinitial : v = 126
    · rw [if_pos hinitial]
      exact ⟨fun h => ⟨fun _ => h, fun heq => absurd heq hkeep⟩, fun h => h.1 hinitial⟩
    · rw [if_neg hinitial]
      refine iff_of_true (fun hneg => ?_)
        ⟨fun heq => absurd heq hinitial, fun heq => absurd heq hkeep⟩
      have hlog : v.toInt32.toUInt32.toInt32.toInt = v.toInt := Int8.toInt_toInt32 v
      have hlt := hneg.2
      rw [hlog] at hlt
      exact absurd (hnonneg hkeep) (by omega)

/-- What the switches store. -/
structure Stored (m : Mem) (pp pp' : PdelayPort) : Prop where
  linkDelay : pp'.currentLogPdelayReqInterval =
    if linkDelayValue m = -128 then pp.currentLogPdelayReqInterval else linkDelayValue m
  timeSync : pp'.currentLogSyncInterval =
    syncStored (timeSyncValue m) pp.initialLogSyncInterval pp.currentLogSyncInterval
  cleared : pp'.rcvdSignalingMsg1 = false

theorem stored_setState : Stored m pp (linkDelaySyncIntervalSettingSetState
    { pp with rcvdSignalingPtr := m, rcvdSignalingMsg1 := true } .setIntervals) :=
  ⟨rfl, rfl, rfl⟩

/-- **What a message leaves is what it asks for** exactly if it stores logarithms. -/
theorem Stored.setsLogs_iff (hstored : Stored m pp pp') :
    SetsLogs m pp pp' ↔ StoresLogs m pp := by
  constructor
  · intro h
    have hlink := h.linkDelay
    have hsync := h.timeSync
    have hticks := syncIntervalTicksOf_iff.mp h.timeSyncTicks
    rw [hstored.linkDelay] at hlink
    rw [hstored.timeSync] at hsync hticks
    have hnonneg := syncStored_eq_iff.mp hsync
    obtain ⟨hinitial, hcurrent⟩ := (not_negativeLog_syncStored_iff hnonneg).mp hticks
    exact ⟨linkDelay_eq_iff.mp hlink, hnonneg, hinitial, hcurrent⟩
  · intro h
    refine ⟨?_, ?_, hstored.cleared, fun b => pdelayReqIntervalTicks_of_log, ?_⟩
    · rw [hstored.linkDelay]
      exact linkDelay_eq_iff.mpr h.linkDelay
    · rw [hstored.timeSync]
      exact syncStored_eq_iff.mpr h.timeSync
    · rw [syncIntervalTicksOf_iff, hstored.timeSync]
      exact (not_negativeLog_syncStored_iff h.timeSync).mpr ⟨h.initial, h.current⟩

/-! ### Any number of messages -/

/-- The message is processed, and leaves what it asks for. -/
def SignalingSetsLogs (pp : PdelayPort) (m : Mem) : Prop :=
  ∃ pp', processRxSignaling m pp = some pp' ∧ SetsLogs m pp pp'

theorem signalingSetsLogs_iff (htakes : TakesSignals pp) :
    SignalingSetsLogs pp m ↔ StoresLogs m pp := by
  rw [SignalingSetsLogs, processRxSignaling_of_takesSignals htakes,
    ← stored_setState.setsLogs_iff]
  constructor
  · rintro ⟨pp', hpp', hsets⟩
    obtain rfl := Option.some_inj.mp hpp'
    exact hsets
  · exact fun hsets => ⟨_, rfl, hsets⟩

/-- **The intervals that Signaling messages set.**  On a port that takes them, after each message of
any sequence the intervals are those that it asks for and are read as they are meant, if and only
if each message, in the state that it is processed in, stores logarithms. -/
theorem signaling_setsLogs_iff (pp : PdelayPort) (htakes : TakesSignals pp) (ms : List Mem) :
    AtEach (fun pp m => processRxSignaling m pp) SignalingSetsLogs pp ms ↔
      AtEach (fun pp m => processRxSignaling m pp) (fun pp m => StoresLogs m pp) pp ms := by
  refine atEach_congr (K := TakesSignals) (fun {pp m pp'} htakes hstep => ?_)
    (fun m _ pp htakes => signalingSetsLogs_iff htakes) htakes
  -- the port goes on taking messages
  obtain rfl := Option.some_inj.mp ((processRxSignaling_of_takesSignals htakes).symm.trans hstep)
  exact htakes.setState

/-- A port that has just been initialised, and has left the first state. -/
def initializedPort : PdelayPort := linkDelaySyncIntervalSettingSetState (freshPort 0) .initialized

theorem initializedPort_takesSignals : TakesSignals initializedPort :=
  ⟨rfl, rfl, LinkDelaySyncIntervalSettingState.noConfusion⟩

/-- A message with the two values. -/
def signals (linkDelay timeSync : UInt8) : Mem :=
  put (put (fun _ => 0) signalingVariables linkDelay) (signalingVariables + 1) timeSync

theorem signaling_setsLogs_two :
    AtEach (fun pp m => processRxSignaling m pp) SignalingSetsLogs initializedPort
        [signals 2 126, signals 0x80 1] ↔
      AtEach (fun pp m => processRxSignaling m pp) (fun pp m => StoresLogs m pp) initializedPort
        [signals 2 126, signals 0x80 1] :=
  signaling_setsLogs_iff initializedPort initializedPort_takesSignals _

/-- **The initial link delay interval is not set, and eight Sync messages a second are not sent.** -/
theorem signaling_not_setsLogs :
    ¬ AtEach (fun pp m => processRxSignaling m pp) SignalingSetsLogs initializedPort
        [signals 126 0] ∧
      ¬ AtEach (fun pp m => processRxSignaling m pp) SignalingSetsLogs initializedPort
        [signals 0 0xFD] := by
  refine ⟨fun h => ?_, fun h => ?_⟩
  · have hstores := (signalingSetsLogs_iff initializedPort_takesSignals).mp h.1
    exact absurd (hstores.linkDelay (by decide)) (by decide)
  · have hstores := (signalingSetsLogs_iff initializedPort_takesSignals).mp h.1
    exact absurd (hstores.timeSync (by decide)) (by decide)

end Gptp
