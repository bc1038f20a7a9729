/-
The time that a grandmaster sends, and what a slave makes of it.

A grandmaster sets the seconds of preciseOriginTimestamp to zero and stores the last two octets of
its nanoseconds in correctionField as well; a slave adds the two.  So what arrives has no seconds,
or one from a carry, and the last two octets of the nanoseconds twice.  Hosts keep the high octet
of a word first here, as `put_timestamp` and `get_timestamp` have it.

* `followUp_fields` — the two fields of the Follow_Up message;
* `timeReaches_iff` — the slave has the time of the grandmaster exactly if that time is zero.
-/
import AvbSwitch.HostWords
import AvbSwitch.SyncPairing

open Octets

namespace Gptp

variable {n k : ℕ} {host host' : Host} {clock clock' : Clock} {locals : SyncLocals}
  {gm s : SyncSystem n} {slave slave' : SyncSystem k} {p : Fin n} {q : Fin k} {m : Mem}
  {sent : List (Fin k × Mem × Mem)} {a b : Int32}

/-! ### What is sent -/

/-- The time that the clock shows. -/
def Clock.rtcTime (clock : Clock) : PtpTime := getRtcTime true clock.timeSinceBoot ⟨0, 0, 0⟩

theorem followUpFrame_fields {rtcTime presentTime : PtpTime} (hbig : host.bigEndian = true)
    (hgm : s.gptp.grandMaster = true) :
    Holds (followUpFrame host rtcTime presentTime s m) 34
        (putTimestamp true s.rxPreciseOriginTimeStamp) ∧
      followUpFrame host rtcTime presentTime s m 14 =
        octetOf true rtcTime.nanoseconds.toUInt32 2 ∧
      followUpFrame host rtcTime presentTime s m 15 =
        octetOf true rtcTime.nanoseconds.toUInt32 3 := by
  rw [followUpFrame, hbig, putCorrectionField, if_pos hgm, hbig]
  refine ⟨?_, ?_, ?_⟩
  · -- the fields that are stored after it lie elsewhere
    refine Holds.putList_off (Holds.putList_off (Holds.put2_off (Holds.put2_off (Holds.put_off
      (Holds.put_off holds_putList ?_) ?_) ?_) ?_) ?_) ?_
    all_goals
      rw [putTimestamp_length]
      simp
  · simp (disch := simp) only [ptpexOsTxFrame, putList_of_lt, put2_of_lt, put_other, put_same]
  · simp (disch := simp) only [ptpexOsTxFrame, putList_of_lt, put2_of_lt, put_same]

/-- **The two fields of a Follow_Up message** that carry the time of a grandmaster. -/
theorem followUp_fields (hbig : host.bigEndian = true) (hgm : gm.gptp.grandMaster = true) :
    Holds (transmitSync host clock gm p).2.2 34
        (putTimestamp true { clock.rtcTime with secondsLower := 0, secondsUpper := 0 }) ∧
      (transmitSync host clock gm p).2.2 14 = octetOf true clock.rtcTime.nanoseconds.toUInt32 2 ∧
      (transmitSync host clock gm p).2.2 15 = octetOf true clock.rtcTime.nanoseconds.toUInt32 3 := by
  have hgm' : (gm.modify p fun pp =>
      { pp with syncSequenceId := pp.syncSequenceId + 1 }).gptp.grandMaster = true := hgm
  rw [transmitSync]
  dsimp only
  rw [if_pos hgm', hbig]
  exact followUpFrame_fields hbig hgm

/-! ### What is received -/

/-- Port `q` once `process_rx_fup` has stored the timestamps of a message. -/
def fupStored (host : Host) (locals : SyncLocals) (slave : SyncSystem k) (q : Fin k) (m : Mem) :
    SyncPort :=
  if AcceptsFup slave q m then takeFup host locals m (slave.sync q) else slave.sync q

/-- No later step of `process_rx_fup` changes them. -/
theorem processRxFup_timestamps {clock : Fin k → Clock} {currentSm : Bool}
    (h : processRxFup host clock locals currentSm slave q m = some (slave', sent)) :
    (slave'.sync q).syncTxTimestamp = (fupStored host locals slave q m).syncTxTimestamp ∧
      (slave'.sync q).syncRxTimestamp = (fupStored host locals slave q m).syncRxTimestamp := by
  rw [fupStored]
  by_cases haccepts : AcceptsFup slave q m
  · rw [if_pos haccepts]
    obtain ⟨u, hstore, hrelay⟩ := processRxFup_relays haccepts h
    have hsync := (@relaySync_spec k host clock u).2 q
    rw [hrelay] at hsync
    obtain ⟨v, hv, rfl⟩ := Option.map_eq_some_iff.mp hstore
    have hrate : v.sync = ((slave.withSource m).modify q (takeFup host locals m)).sync := by
      obtain ⟨rateRatio, upstreamTxTime, rfl⟩ := updateRateRatio_frame hv
      rfl
    rw [hsync, countedUp]
    split
    all_goals
      rw [SyncSystem.modify_self, hrate, SyncSystem.modify_self]
      exact ⟨rfl, rfl⟩
  · rw [processRxFup_neg haccepts] at h
    obtain ⟨rfl, -⟩ := Prod.mk.inj (Option.some_inj.mp h)
    rw [if_neg haccepts]
    exact ⟨rfl, rfl⟩

/-- Without seconds, a carry out of the nanoseconds leaves one second or none. -/
theorem carryNanoseconds_cases (a : Int32) :
    (∃ c, carryNanoseconds ⟨0, 0, a⟩ = ⟨0, 1, c⟩) ∨
      (∃ c, carryNanoseconds ⟨0, 0, a⟩ = ⟨-1, 0xFFFFFFFF, c⟩) ∨
      carryNanoseconds ⟨0, 0, a⟩ = ⟨0, 0, a⟩ := by
  rw [carryNanoseconds]
  dsimp only
  by_cases hover : oneBillion ≤ a
  · rw [if_pos hover]
    exact Or.inl ⟨_, rfl⟩
  · rw [if_neg hover]
    by_cases hunder : a ≤ -oneBillion
    · rw [if_pos hunder]
      exact Or.inr (Or.inl ⟨_, rfl⟩)
    · rw [if_neg hunder]
      exact Or.inr (Or.inr rfl)

/-- The sum of two times without seconds has one second or none. -/
theorem timestampSum_secondsLower (a b : Int32) :
    (timestampSum ⟨0, 0, a⟩ ⟨0, 0, b⟩).secondsLower = 0 ∨
      (timestampSum ⟨0, 0, a⟩ ⟨0, 0, b⟩).secondsLower = 1 ∨
      (timestampSum ⟨0, 0, a⟩ ⟨0, 0, b⟩).secondsLower = 0xFFFFFFFF := by
  have hnone : ¬ (0 : UInt32) < 0 := by decide
  have hsum : timestampSum ⟨0, 0, a⟩ ⟨0, 0, b⟩ =
      normalizeTimestamp (carryNanoseconds ⟨0, 0, a + b⟩) := by
    rw [timestampSum]
    dsimp only
    rw [UInt32.add_zero, if_neg hnone, Int32.add_zero, Int32.add_zero]
  have hnone' : ¬ (0 : Int32) < 0 := by decide
  rw [hsum]
  rcases carryNanoseconds_cases (a + b) with ⟨c, hcarry⟩ | ⟨c, hcarry⟩ | hcarry
  · have hone : (0 : Int32) < 0 ∨ (0 : UInt32) < 1 := by decide
    rw [hcarry, normalizeTimestamp]
    dsimp only
    rw [if_neg hnone', if_pos hone]
    split
    · exact Or.inl rfl
    · exact Or.inr (Or.inl rfl)
  · have hnegative : (-1 : Int32) < 0 := by decide
    rw [hcarry, normalizeTimestamp]
    dsimp only
    rw [if_pos hnegative]
    split
    · exact Or.inl rfl
    · exact Or.inr (Or.inr rfl)
  · rw [hcarry, normalizeTimestamp]
    dsimp only
    rw [if_neg hnone', if_neg (not_or.mpr ⟨hnone', hnone⟩)]
    exact Or.inl rfl

/-! ### The time of the grandmaster at the slave -/

/-- The slave takes the Sync message and then the Follow_Up message. -/
def TakesBoth (host : Host) (clock : Clock) (locals : SyncLocals) (slave : SyncSystem k)
    (q : Fin k) (sync followUp : Mem) : Prop :=
  FromMaster slave q sync ∧ AcceptsFup (processRxSync host clock locals slave q sync) q followUp

instance (host : Host) (clock : Clock) (locals : SyncLocals) (slave : SyncSystem k) (q : Fin k)
    (sync followUp : Mem) : Decidable (TakesBoth host clock locals slave q sync followUp) :=
  inferInstanceAs (Decidable (_ ∧ _))

/-- Port `q` after both. -/
def afterBoth (host : Host) (clock : Clock) (locals : SyncLocals) (slave : SyncSystem k)
    (q : Fin k) (sync followUp : Mem) : SyncPort :=
  fupStored host locals (processRxSync host clock locals slave q sync) q followUp

/-- What the slave makes of the time of the grandmaster. -/
theorem afterBoth_syncTxTimestamp (hbig : host.bigEndian = true) (hbig' : host'.bigEndian = true)
    (hgm : gm.gptp.grandMaster = true) (hlocals : locals.correctionField = ⟨0, 0, 0⟩)
    (hlocals' : locals.syncTxTimestamp = ⟨0, 0, 0⟩) {sync : Mem}
    (htakes : TakesBoth host' clock' locals slave q sync (transmitSync host clock gm p).2.2) :
    (afterBoth host' clock' locals slave q sync (transmitSync host clock gm p).2.2).syncTxTimestamp =
      timestampSum ⟨0, 0, clock.rtcTime.nanoseconds⟩
        ⟨0, 0, (octetOf true clock.rtcTime.nanoseconds.toUInt32 2).toUInt32.toInt32 <<< 8 +
          (octetOf true clock.rtcTime.nanoseconds.toUInt32 3).toUInt32.toInt32⟩ := by
  obtain ⟨horigin, hsix, hseven⟩ := @followUp_fields n host clock gm p hbig hgm
  have hupper : setUpper true 0 (octetOf true (0 : Int32).toUInt32 2)
      (octetOf true (0 : Int32).toUInt32 3) = 0 := by decide
  have htimestamp : getTimestamp true (transmitSync host clock gm p).2.2 34 ⟨0, 0, 0⟩ =
      ⟨0, 0, clock.rtcTime.nanoseconds⟩ := by
    rw [getTimestamp_of_holds horigin]
    dsimp only
    rw [hupper]
  have hcorrection : getCorrectionField (transmitSync host clock gm p).2.2 ⟨0, 0, 0⟩ =
      ⟨0, 0, (octetOf true clock.rtcTime.nanoseconds.toUInt32 2).toUInt32.toInt32 <<< 8 +
        (octetOf true clock.rtcTime.nanoseconds.toUInt32 3).toUInt32.toInt32⟩ := by
    rw [getCorrectionField, hsix, hseven]
    have hzero : ((0 : Int32) <<< 8 : Int32) = 0 := by decide
    dsimp only
    rw [hzero, Int32.zero_add]
  rw [afterBoth, fupStored, if_pos htakes.2, takeFup, hbig', hlocals, hlocals', htimestamp,
    hcorrection]

/-- The sum that the slave computes, for the octets of the clock. -/
def sumOfOctets (b0 b1 b2 b3 : UInt8) : PtpTime :=
  let nanoseconds := wordOf true b3 b2 b1 b0
  timestampSum ⟨0, 0, nanoseconds.toInt32⟩
    ⟨0, 0, (octetOf true nanoseconds 2).toUInt32.toInt32 <<< 8 +
      (octetOf true nanoseconds 3).toUInt32.toInt32⟩

/-- The time that the clock shows, for its octets. -/
def timeOfOctets (b0 b1 b2 b3 : UInt8) : PtpTime where
  secondsUpper := setUpper true 0 b0 b1
  secondsLower := wordOf true b0 b1 b2 b3
  nanoseconds := (wordOf true b3 b2 b1 b0).toInt32

theorem sumOfOctets_eq_iff {b0 b1 b2 b3 : UInt8} :
    sumOfOctets b0 b1 b2 b3 = timeOfOctets b0 b1 b2 b3 ↔ b0 = 0 ∧ b1 = 0 ∧ b2 = 0 ∧ b3 = 0 := by
  constructor
  · intro heq
    have hlower : (sumOfOctets b0 b1 b2 b3).secondsLower = wordOf true b0 b1 b2 b3 := by rw [heq]; rfl
    -- all four octets are known from the seconds, and two of three cases are no solution
    rcases timestampSum_secondsLower (wordOf true b3 b2 b1 b0).toInt32 _ with h | h | h
    · have hoctets := hlower.symm.trans h
      rw [show (0 : UInt32) = wordOf true 0 0 0 0 by decide, wordOf_inj] at hoctets
      exact hoctets
    · have hoctets := hlower.symm.trans h
      rw [show (1 : UInt32) = wordOf true 0 0 0 1 by decide, wordOf_inj] at hoctets
      obtain ⟨rfl, rfl, rfl, rfl⟩ := hoctets
      exact absurd heq (by decide)
    · have hoctets := hlower.symm.trans h
      rw [show (0xFFFFFFFF : UInt32) = wordOf true 255 255 255 255 by decide, wordOf_inj] at hoctets
      obtain ⟨rfl, rfl, rfl, rfl⟩ := hoctets
      exact absurd heq (by decide)
  · rintro ⟨rfl, rfl, rfl, rfl⟩
    decide

/-- **The time of the grandmaster reaches the slave** exactly if the octets of the clock are
zero. -/
theorem timeReaches_iff (host host' : Host) (hbig : host.bigEndian = true)
    (hbig' : host'.bigEndian = true) (clock clock' : Clock) (locals : SyncLocals)
    (hcorrection : locals.correctionField = ⟨0, 0, 0⟩)
    (hsyncTx : locals.syncTxTimestamp = ⟨0, 0, 0⟩) (gm : SyncSystem n)
    (hgm : gm.gptp.grandMaster = true) (p : Fin n) (slave : SyncSystem k) (q : Fin k)
    (htakes : TakesBoth host' clock' locals slave q (transmitSync host clock gm p).2.1
      (transmitSync host clock gm p).2.2) :
    (afterBoth host' clock' locals slave q (transmitSync host clock gm p).2.1
        (transmitSync host clock gm p).2.2).syncTxTimestamp = clock.rtcTime ↔
      clock.timeSinceBoot = Vector.replicate 4 0 := by
  rw [afterBoth_syncTxTimestamp hbig hbig' hgm hcorrection hsyncTx htakes]
  show sumOfOctets clock.timeSinceBoot[0] clock.timeSinceBoot[1] clock.timeSinceBoot[2]
    clock.timeSinceBoot[3] = timeOfOctets _ _ _ _ ↔ _
  rw [sumOfOctets_eq_iff]
  constructor
  · rintro ⟨h0, h1, h2, h3⟩
    refine Vector.ext fun i hi => ?_
    rw [Vector.getElem_replicate]
    interval_cases i
    exacts [h0, h1, h2, h3]
  · intro hzero
    rw [hzero]
    exact ⟨rfl, rfl, rfl, rfl⟩

/-! ### One second after the start -/

/-- The clock after one second. -/
def afterOneSecond : Clock := ⟨Vector.ofFn fun i => if i.val = 3 then 1 else 0, ⟨0, 0, 0⟩⟩

/-- A system with two ports, right after `gptp_sw_init`. -/
def startingSystem (mac : Vector UInt8 6) : SyncSystem 2 :=
  .swInit mac ⟨248, 248⟩ (fun _ => ⟨3, 3⟩) ⟨0, 0, 1⟩ fun _ => 0

/-- Nothing comes in, so that the system selects itself. -/
def becomesGrandmaster : List (SyncInput 2) :=
  [.announce (.portAnnounceInformation port0), .announce (.portAnnounceInformation port1),
    .announce .portRoleSelection]

/-- A message with the source that the grandmaster gives in its Sync messages. -/
def grandmasterAnnounce : Mem := fun a =>
  if a = 47 then 100
  else if a = 23 ∨ a = 25 then 0xFF
  else if a = 24 ∨ a = 26 then 0xFE
  else if a = 53 then 1
  else 0

def followsGrandmaster : List (SyncInput 2) := (becomesSlave grandmasterAnnounce).map .announce

/-- The two messages of a grandmaster are taken one second after its start, with another time. -/
def OneSecondTaken (gm slave : SyncSystem 2) : Prop :=
  gm.gptp.grandMaster = true ∧
    TakesBoth bigEndianHost afterOneSecond blankLocals slave port0
      (transmitSync bigEndianHost afterOneSecond gm port0).2.1
      (transmitSync bigEndianHost afterOneSecond gm port0).2.2 ∧
    (afterBoth bigEndianHost afterOneSecond blankLocals slave port0
      (transmitSync bigEndianHost afterOneSecond gm port0).2.1
      (transmitSync bigEndianHost afterOneSecond gm port0).2.2).syncTxTimestamp =
        ⟨0, 0, 0x01000000⟩

instance (gm slave : SyncSystem 2) : Decidable (OneSecondTaken gm slave) :=
  inferInstanceAs (Decidable (_ ∧ _ ∧ _))

theorem oneSecond_run : ∃ gm slave,
    Runs.run (syncStep bigEndianHost) (startingSystem (Vector.replicate 6 0)) becomesGrandmaster =
        some gm ∧
      Runs.run (syncStep bigEndianHost) (startingSystem (Vector.replicate 6 1)) followsGrandmaster =
        some slave ∧
      OneSecondTaken gm slave := by
  have hrun : ((Runs.run (syncStep bigEndianHost) (startingSystem (Vector.replicate 6 0))
        becomesGrandmaster).bind fun gm =>
      (Runs.run (syncStep bigEndianHost) (startingSystem (Vector.replicate 6 1))
        followsGrandmaster).map fun slave => decide (OneSecondTaken gm slave)) = some true := by
    decide +kernel
  obtain ⟨gm, hgm, h⟩ := Option.bind_eq_some_iff.mp hrun
  obtain ⟨slave, hslave, h⟩ := Option.map_eq_some_iff.mp h
  exact ⟨gm, slave, hgm, hslave, of_decide_eq_true h⟩

/-- **The seconds of the grandmaster are lost.** -/
theorem seconds_lost : ∃ gm slave,
    Runs.run (syncStep bigEndianHost) (startingSystem (Vector.replicate 6 0)) becomesGrandmaster =
        some gm ∧
      Runs.run (syncStep bigEndianHost) (startingSystem (Vector.replicate 6 1)) followsGrandmaster =
        some slave ∧
      TakesBoth bigEndianHost afterOneSecond blankLocals slave port0
        (transmitSync bigEndianHost afterOneSecond gm port0).2.1
        (transmitSync bigEndianHost afterOneSecond gm port0).2.2 ∧
      (afterBoth bigEndianHost afterOneSecond blankLocals slave port0
        (transmitSync bigEndianHost afterOneSecond gm port0).2.1
        (transmitSync bigEndianHost afterOneSecond gm port0).2.2).syncTxTimestamp ≠
          afterOneSecond.rtcTime := by
  obtain ⟨gm, slave, hgm, hslave, -, htakes, htime⟩ := oneSecond_run
  refine ⟨gm, slave, hgm, hslave, htakes, ?_⟩
  rw [htime]
  decide

theorem timeReaches_afterOneSecond : ∃ gm slave : SyncSystem 2,
    (afterBoth bigEndianHost afterOneSecond blankLocals slave port0
        (transmitSync bigEndianHost afterOneSecond gm port0).2.1
        (transmitSync bigEndianHost afterOneSecond gm port0).2.2).syncTxTimestamp =
          afterOneSecond.rtcTime ↔
      afterOneSecond.timeSinceBoot = Vector.replicate 4 0 := by
  obtain ⟨gm, slave, -, -, hgm, htakes, -⟩ := oneSecond_run
  exact ⟨gm, slave, timeReaches_iff bigEndianHost bigEndianHost rfl rfl afterOneSecond
    afterOneSecond blankLocals rfl rfl gm hgm port0 slave port0 htakes⟩

end Gptp
