/-
What uninitialised local variables have to do with what is received.

`get_correction_field` writes the seconds of the timestamp that it is given, and shifts two octets
of the frame into the nanoseconds that stand there already.  Its callers hand it a local variable
that nothing was written to.  The same frame is received twice here, in the same state, and only
what such variables hold is different.

* `receive_of_not_stores` — of a frame that is not taken nothing is kept that depends on them;
* `determinedByFrame_iff` — of a frame that is taken, the timestamps that are kept do.
-/
import AvbSwitch.SyncPairing

open Octets

namespace Gptp

variable {n : ℕ}

/-! ### Two runs on one frame -/

/-- What the local timestamps hold that are not written as a whole: that of
`get_hardware_timestamp`, and those of `process_rx_sync` and `process_rx_fup`. -/
structure Leftovers where
  tempTimestamp : PtpTime
  correctionField : PtpTime
  syncTxTimestamp : PtpTime
  propDelayTime : PtpTime

/-- What both runs have in common besides the instance and the frame. -/
structure Surroundings where
  timeSinceBoot : Vector UInt8 4
  behindPropDelay : Vector UInt8 4
  cumulativeScaledRateOffsetPtr : UInt32

def Surroundings.clock (e : Surroundings) (l : Leftovers) : Clock where
  timeSinceBoot := e.timeSinceBoot
  leftover := l.tempTimestamp

def Surroundings.locals (e : Surroundings) (l : Leftovers) : SyncLocals where
  correctionField := l.correctionField
  syncTxTimestamp := l.syncTxTimestamp
  propDelayTime := l.propDelayTime
  behindPropDelay := e.behindPropDelay
  cumulativeScaledRateOffsetPtr := e.cumulativeScaledRateOffsetPtr

/-- `process_rx_fup` up to where it corrects the clock. -/
def fupBeforeServo (host : Host) (locals : SyncLocals) (s : SyncSystem n) (p : Fin n) (m : Mem) :
    Option (SyncSystem n) :=
  if AcceptsFup s p m then storeFup host locals (s.withSource m) p m else some (s.withSource m)

/-- What is left for `process_rx_fup` is to relay the message. -/
theorem processRxFup_eq_bind {host : Host} {locals : SyncLocals} {s : SyncSystem n} {p : Fin n}
    {m : Mem} {clock : Fin n → Clock} {currentSm : Bool} :
    processRxFup host clock locals currentSm s p m =
      (fupBeforeServo host locals s p m).bind fun u =>
        if AcceptsFup s p m then if currentSm then some (relaySync host clock u) else none
        else some (u, []) := by
  by_cases haccepts : AcceptsFup s p m
  · rw [processRxFup_pos haccepts, fupBeforeServo, if_pos haccepts]
    simp only [if_pos haccepts]
  · rw [processRxFup_neg haccepts, fupBeforeServo, if_neg haccepts, Option.bind_some,
      if_neg haccepts]

/-- A Sync or a Follow_Up message comes in. -/
inductive Reception (n : ℕ)
  | sync (p : Fin n) (rxBuffer : Mem)
  | followUp (p : Fin n) (rxBuffer : Mem)

/-- What the instance is after it, up to where the clock is corrected. -/
def receive (host : Host) (e : Surroundings) (l : Leftovers) (s : SyncSystem n) :
    Reception n → Option (SyncSystem n)
  | .sync p m => some (processRxSync host (e.clock l) (e.locals l) s p m)
  | .followUp p m => fupBeforeServo host (e.locals l) s p m

/-- What a port keeps of both messages. -/
structure PortTimes where
  syncRxTimestampTemp : PtpTime
  syncRxTimestamp : PtpTime
  syncTxTimestamp : PtpTime
  syncTimestampsValid : Bool
  syncSequenceIdValid : Bool
  waitingForFup : Bool

def SyncPort.times (pp : SyncPort) : PortTimes where
  syncRxTimestampTemp := pp.syncRxTimestampTemp
  syncRxTimestamp := pp.syncRxTimestamp
  syncTxTimestamp := pp.syncTxTimestamp
  syncTimestampsValid := pp.syncTimestampsValid
  syncSequenceIdValid := pp.syncSequenceIdValid
  waitingForFup := pp.waitingForFup

/-- What the instance keeps of them. -/
structure KeptTimes (n : ℕ) where
  ports : Fin n → PortTimes
  rxCorrectionField : PtpTime
  rxPreciseOriginTimeStamp : PtpTime
  upstreamTxTime : PtpTime

def SyncSystem.times (s : SyncSystem n) : KeptTimes n where
  ports p := (s.sync p).times
  rxCorrectionField := s.rxCorrectionField
  rxPreciseOriginTimeStamp := s.rxPreciseOriginTimeStamp
  upstreamTxTime := s.upstreamTxTime

/-- **What is kept depends on the state and the frame only.** -/
def DeterminedByFrame (host : Host) (e : Surroundings) (s : SyncSystem n) (r : Reception n) : Prop :=
  ∀ l l' : Leftovers,
    (receive host e l s r).map SyncSystem.times = (receive host e l' s r).map SyncSystem.times

/-! ### What is not kept -/

/-- The upstream transmit time is to be computed, and one of the two rate ratios that it takes a
division by is zero. -/
def DividesByZero (e : Surroundings) (pp : SyncPort) : Prop :=
  pp.neighborRateRatioValid ∧ pp.neighborPropDelay ≠ 0 ∧
    (pp.neighborRateRatio = 0 ∨
      (e.cumulativeScaledRateOffsetPtr + 1) + (pp.neighborRateRatio - 1) = 0)

/-- The frame is taken, and its timestamps are kept. -/
def Stores (e : Surroundings) (s : SyncSystem n) : Reception n → Prop
  | .sync p m => FromMaster s p m
  | .followUp p m => AcceptsFup s p m ∧ ¬ DividesByZero e (s.sync p)

variable {host : Host} {e : Surroundings} {l : Leftovers} {s : SyncSystem n} {p : Fin n} {m : Mem}
  {t t' : PtpTime}

theorem updateRateRatio_isNone_iff {pp : SyncPort}
    (hp : s.sync p = takeFup host (e.locals l) m pp) :
    updateRateRatio host (e.locals l) p s = none ↔ DividesByZero e pp := by
  rw [updateRateRatio, DividesByZero, hp]
  show ite (pp.neighborRateRatioValid = true) _ _ = none ↔ _
  by_cases hvalid : pp.neighborRateRatioValid = true
  · rw [if_pos hvalid]
    show ite (pp.neighborPropDelay = 0) _ _ = none ↔ _
    by_cases hdelay : pp.neighborPropDelay = 0
    · rw [if_pos hdelay]
      exact ⟨fun h => absurd h (Option.some_ne_none _), fun h => absurd hdelay h.2.1⟩
    · rw [if_neg hdelay]
      split
      case isTrue hzero => exact ⟨fun _ => ⟨hvalid, hdelay, hzero⟩, fun _ => rfl⟩
      case isFalse hzero =>
        exact ⟨fun h => absurd h (Option.some_ne_none _), fun h => absurd h.2.2 hzero⟩
  · rw [if_neg hvalid]
    exact ⟨fun h => absurd h (Option.some_ne_none _), fun h => absurd h.1 hvalid⟩

/-- Whether a Follow_Up message divides by zero is decided before it comes in. -/
theorem storeFup_isNone_iff :
    storeFup host (e.locals l) s p m = none ↔ DividesByZero e (s.sync p) := by
  rw [storeFup, Option.map_eq_none_iff]
  exact updateRateRatio_isNone_iff SyncSystem.modify_self

/-- **A frame that is not taken** leaves the same instance behind, whatever the local variables
hold. -/
theorem receive_of_not_stores {r : Reception n} (h : ¬ Stores e s r) (l l' : Leftovers) :
    receive host e l s r = receive host e l' s r := by
  cases r with
  | sync p m =>
    have hnot := mt (@fromMaster_setPort n p s m 0).mp h
    show some (ite _ _ _) = some (ite _ _ _)
    rw [if_neg hnot, if_neg hnot]
  | followUp p m =>
    show ite _ _ _ = ite _ _ _
    split
    case isFalse => rfl
    case isTrue haccepts =>
      have hzero : DividesByZero e (s.sync p) := by
        by_contra hzero
        exact h ⟨haccepts, hzero⟩
      have hnone : ∀ l : Leftovers, storeFup host (e.locals l) (s.withSource m) p m = none := by
        intro l
        exact storeFup_isNone_iff.mpr hzero
      rw [hnone, hnone]

/-! ### What is kept -/

/-- What `timestamp_difference` adds to the nanoseconds, each of the two times. -/
def billions : List Int32 := [0, oneBillion, -oneBillion]

theorem carryNanoseconds_nanoseconds :
    ∃ d ∈ billions, (carryNanoseconds t).nanoseconds = t.nanoseconds + d := by
  rw [carryNanoseconds]
  split
  · exact ⟨-oneBillion, by decide, Int32.sub_eq_add_neg _ _⟩
  · split
    · exact ⟨oneBillion, by decide, rfl⟩
    · exact ⟨0, by decide, (Int32.add_zero _).symm⟩

theorem normalizeTimestamp_nanoseconds :
    ∃ d ∈ billions, (normalizeTimestamp t).nanoseconds = t.nanoseconds + d := by
  have hzero : ∃ d ∈ billions, t.nanoseconds = t.nanoseconds + d :=
    ⟨0, by decide, (Int32.add_zero _).symm⟩
  rw [normalizeTimestamp]
  split
  · split
    · exact ⟨-oneBillion, by decide, Int32.sub_eq_add_neg _ _⟩
    · exact hzero
  · split
    · split
      · exact ⟨oneBillion, by decide, rfl⟩
      · exact hzero
    · exact hzero

theorem normalized_nanoseconds :
    ∃ d ∈ billions, ∃ d' ∈ billions,
      (normalizeTimestamp (carryNanoseconds t)).nanoseconds = t.nanoseconds + d + d' := by
  obtain ⟨d, hd, hcarry⟩ := @carryNanoseconds_nanoseconds t
  obtain ⟨d', hd', hnormal⟩ := @normalizeTimestamp_nanoseconds (carryNanoseconds t)
  exact ⟨d, hd, d', hd', by rw [hnormal, hcarry]⟩

theorem timestampDifference_nanoseconds :
    ∃ d ∈ billions, ∃ d' ∈ billions,
      (timestampDifference t t').nanoseconds = t.nanoseconds - t'.nanoseconds + d + d' :=
  normalized_nanoseconds

/-- Subtrahends that are 65536 nanoseconds apart do not give the same difference. -/
theorem timestampDifference_ne {a b c : PtpTime} (h : c.nanoseconds = b.nanoseconds + 65536) :
    timestampDifference a b ≠ timestampDifference a c := by
  intro heq
  obtain ⟨d, hd, d', hd', hleft⟩ := @timestampDifference_nanoseconds a b
  obtain ⟨e, he, e', he', hright⟩ := @timestampDifference_nanoseconds a c
  rw [heq, hright, h] at hleft
  have hsum : d + d' + 65536 = e + e' := by grind
  -- no two sums of the amounts that are added are that far apart
  have hapart : (billions.all fun d => billions.all fun d' => billions.all fun e =>
      billions.all fun e' => decide (d + d' + 65536 ≠ e + e')) = true := by
    decide
  simp only [List.all_eq_true, decide_eq_true_eq] at hapart
  exact hapart d hd d' hd' e he e' he' hsum

/-- All local variables hold zero. -/
def clearLeftovers : Leftovers := ⟨⟨0, 0, 0⟩, ⟨0, 0, 0⟩, ⟨0, 0, 0⟩, ⟨0, 0, 0⟩⟩

/-- One nanosecond is left in the correction field. -/
def oneLeftover : Leftovers := { clearLeftovers with correctionField := ⟨0, 0, 1⟩ }

/-- What is left is shifted by the length of what is read. -/
theorem getCorrectionField_oneLeftover :
    (getCorrectionField m oneLeftover.correctionField).nanoseconds =
      (getCorrectionField m clearLeftovers.correctionField).nanoseconds + 65536 := by
  have hall : ∀ k : Fin 256,
      ((1 : Int32) <<< 8 + (UInt8.ofFin k).toUInt32.toInt32) <<< 8 =
        ((0 : Int32) <<< 8 + (UInt8.ofFin k).toUInt32.toInt32) <<< 8 + 65536 := by
    decide +kernel
  have hshift : ((1 : Int32) <<< 8 + (m 14).toUInt32.toInt32) <<< 8 =
      ((0 : Int32) <<< 8 + (m 14).toUInt32.toInt32) <<< 8 + 65536 := hall (m 14).toFin
  show ((1 : Int32) <<< 8 + (m 14).toUInt32.toInt32) <<< 8 + (m 15).toUInt32.toInt32 =
    ((0 : Int32) <<< 8 + (m 14).toUInt32.toInt32) <<< 8 + (m 15).toUInt32.toInt32 + 65536
  rw [hshift]
  grind

/-- What the port keeps as receive timestamp of a Sync message that is taken. -/
theorem receive_sync_times (hmaster : FromMaster s p m) :
    ∃ u, receive host e l s (.sync p m) = some u ∧ (u.times.ports p).syncRxTimestampTemp =
      syncReceiveTime host (e.clock l) (e.locals l) (s.sync p).rxPhyMacDelay m := by
  refine ⟨processRxSync host (e.clock l) (e.locals l) s p m, rfl, ?_⟩
  have hsync : (processRxSync host (e.clock l) (e.locals l) s p m).sync p =
      keepSync host (e.clock l) (e.locals l) m (s.sync p) := by
    rw [processRxSync_sync, if_pos hmaster, SyncSystem.modify_self]
  show ((processRxSync host (e.clock l) (e.locals l) s p m).sync p).syncRxTimestampTemp = _
  rw [hsync, keepSync]

/-- What the instance keeps as correction field of a Follow_Up message that is taken. -/
theorem receive_followUp_times (hstores : Stores e s (.followUp p m)) :
    ∃ u, receive host e l s (.followUp p m) = some u ∧
      u.times.rxCorrectionField = getCorrectionField m l.correctionField := by
  obtain ⟨haccepts, hzero⟩ := hstores
  rw [receive, fupBeforeServo, if_pos haccepts]
  cases hstore : storeFup host (e.locals l) (s.withSource m) p m with
  | none => exact absurd (storeFup_isNone_iff.mp hstore) hzero
  | some u =>
    refine ⟨u, rfl, ?_⟩
    obtain ⟨v, hv, rfl⟩ := Option.map_eq_some_iff.mp hstore
    -- the rate ratio and the upstream transmit time are other variables
    obtain ⟨rateRatio, upstreamTxTime, rfl⟩ := updateRateRatio_frame hv
    rfl

/-- **What is received depends on the state and the frame only** exactly if the frame is not
taken. -/
theorem determinedByFrame_iff (host : Host) (e : Surroundings) (s : SyncSystem n)
    (r : Reception n) : DeterminedByFrame host e s r ↔ ¬ Stores e s r := by
  constructor
  · intro h hstores
    have hsame := h clearLeftovers oneLeftover
    cases r with
    | sync p m =>
      obtain ⟨u, hu, htime⟩ := @receive_sync_times n host e clearLeftovers s p m hstores
      obtain ⟨u', hu', htime'⟩ := @receive_sync_times n host e oneLeftover s p m hstores
      rw [hu, hu'] at hsame
      have htimes : u.times = u'.times := Option.some_inj.mp hsame
      rw [htimes, htime'] at htime
      exact timestampDifference_ne getCorrectionField_oneLeftover htime.symm
    | followUp p m =>
      obtain ⟨u, hu, hfield⟩ := @receive_followUp_times n host e clearLeftovers s p m hstores
      obtain ⟨u', hu', hfield'⟩ := @receive_followUp_times n host e oneLeftover s p m hstores
      rw [hu, hu'] at hsame
      have htimes : u.times = u'.times := Option.some_inj.mp hsame
      rw [htimes, hfield'] at hfield
      have hnanoseconds := congrArg PtpTime.nanoseconds hfield
      rw [getCorrectionField_oneLeftover] at hnanoseconds
      have hnot : (65536 : Int32) ≠ 0 := by decide
      exact hnot (by grind)
  · intro h l l'
    rw [receive_of_not_stores h l l']

/-! ### A Sync message of the grandmaster -/

def quietSurroundings : Surroundings := ⟨Vector.replicate 4 0, Vector.replicate 4 0, 0⟩

/-- **The receive time of a Sync message** depends on what the stack holds. -/
theorem leftover_kept : ∃ s, Runs.run (syncStep bigEndianHost)
      (SyncSystem.swInit (Vector.replicate 6 0) ⟨248, 248⟩ (fun _ => ⟨3, 3⟩) ⟨0, 0, 0⟩ fun _ => 0)
      ((becomesSlave (announceFrom 100 1)).map .announce) = some s ∧
    ¬ DeterminedByFrame bigEndianHost quietSurroundings s (.sync port0 (messageFrom 1)) := by
  have hrun : (Runs.run (syncStep bigEndianHost)
      (SyncSystem.swInit (Vector.replicate 6 0) ⟨248, 248⟩ (fun _ => ⟨3, 3⟩) ⟨0, 0, 0⟩ fun _ => 0)
      ((becomesSlave (announceFrom 100 1)).map .announce)).map
      (fun s => ((receive bigEndianHost quietSurroundings clearLeftovers s
          (.sync port0 (messageFrom 1))).map fun u => (u.times.ports port0).syncRxTimestampTemp,
        (receive bigEndianHost quietSurroundings oneLeftover s
          (.sync port0 (messageFrom 1))).map fun u => (u.times.ports port0).syncRxTimestampTemp)) =
      some (some ⟨0, 0, 0⟩, some ⟨0, 0, -65536⟩) := by
    decide +kernel
  obtain ⟨s, hs, heq⟩ := Option.map_eq_some_iff.mp hrun
  obtain ⟨hclear, hone⟩ := Prod.mk.inj heq
  refine ⟨s, hs, fun h => ?_⟩
  have hsame := congrArg (Option.map fun times : KeptTimes 2 =>
    (times.ports port0).syncRxTimestampTemp) (h clearLeftovers oneLeftover)
  rw [Option.map_map, Option.map_map] at hsame
  have hdiffers : (some ⟨0, 0, 0⟩ : Option PtpTime) = some ⟨0, 0, -65536⟩ :=
    hclear.symm.trans (hsame.trans hone)
  exact absurd hdiffers (by decide)

end Gptp
