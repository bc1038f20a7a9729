/-
Runs of the two computations of the rate ratio, with the Follow_Up messages that divide by it.

Any timestamps may come in, on any port and in any order, and any Follow_Up message in between.

* `pdelay_sane_iff`, `followUp_isSome_iff` — what one step does;
* `rateRatio_sane_iff` — in which runs every valid ratio is within the limits and no Follow_Up
  message divides by zero;
* `rateRatio_zero` — a ratio of zero that is marked as valid.
-/
import AvbSwitch.LocalContents
import AvbSwitch.PdelayTermination
import AvbSwitch.RateRatio

open Octets

namespace Gptp

variable {n : ℕ} {t t' : RateSystem n} {p i : Fin n} {host : Host} {e : Surroundings}
  {l : Leftovers} {s : SyncSystem n} {m : Mem}

/-! ### Steps -/

/-- The variables for Sync and Follow_Up messages share the ratio of each port. -/
def SyncSystem.withRates (s : SyncSystem n) (t : RateSystem n) : SyncSystem n :=
  { s with sync := fun p =>
      { s.sync p with
        neighborRateRatio := (t.ports p).neighborRateRatio
        neighborRateRatioValid := (t.ports p).neighborRateRatioValid } }

/-- What happens to the ratio of a port.  The timestamps are those that the computation finds. -/
inductive RateEvent (n : ℕ)
  /-- `computePdelayRateRatio` runs -/
  | pdelay (p : Fin n) (txTimestamp rxTimestamp : PtpTime)
  /-- `computeDelayRateRatio` runs -/
  | delay (p : Fin n) (txTimestamp rxTimestamp : PtpTime)
  /-- MDPdelayReq enters `INITIAL_SEND_PDELAY_REQ` -/
  | initialSend (p : Fin n)
  /-- MDPdelayReq enters `RESET` -/
  | reset (p : Fin n)
  /-- `process_rx_fup` runs -/
  | followUp (host : Host) (e : Surroundings) (l : Leftovers) (s : SyncSystem n) (p : Fin n)
      (rxBuffer : Mem)

/-- The port with the timestamps of a response. -/
def RatePort.withResponse (pp : RatePort) (txTimestamp rxTimestamp : PtpTime) : RatePort :=
  { pp with
    pdelayRespTxTimestamp := { pp.pdelayRespTxTimestamp with time := txTimestamp }
    pdelayRespRxTimestamp := { pp.pdelayRespRxTimestamp with time := rxTimestamp } }

/-- One step.  A Follow_Up message leaves the ratios as they are; it is not defined if it divides by
zero. -/
def rateStep (t : RateSystem n) : RateEvent n → Option (RateSystem n)
  | .pdelay p txTimestamp rxTimestamp =>
    let pp := (t.ports p).withResponse txTimestamp rxTimestamp
    some (t.setPort p { pp with toPdelayPort := computePdelayRateRatio pp.toPdelayPort })
  | .delay p txTimestamp rxTimestamp =>
    some (computeDelayRateRatio (t.setPort p { t.ports p with
      delayReqTxLocalTimestamp := txTimestamp
      delayReqRxTimestamp := rxTimestamp }) p)
  | .initialSend p =>
    some (t.setPort p { t.ports p with
      initPdelayRespReceived := false
      neighborRateRatio := 0x80000000
      neighborRateRatioValid := false })
  | .reset p => some (t.setPort p { t.ports p with initPdelayRespReceived := false })
  | .followUp host e l s p m =>
    (fupBeforeServo host (e.locals l) (s.withRates t) p m).map fun _ => t

/-- Every valid ratio is within the limits. -/
def RateSystem.Sane (t : RateSystem n) : Prop := ∀ p, (t.ports p).Sane

/-- What is asked of a step: of a response, that both clocks have gone at the same rate; of a
Follow_Up message that is taken, that the address of its array `cumulativeScaledRateOffset`, which
is stored in place of the rate offset in it, does not cancel the ratio. -/
def RateEvent.Meets (t : RateSystem n) : RateEvent n → Prop
  | .pdelay p txTimestamp rxTimestamp => (t.ports p).initPdelayRespReceived = true →
    KeepsRate txTimestamp (t.ports p).pdelayRespTxTimestampI rxTimestamp
      (t.ports p).pdelayRespRxTimestampI
  | .followUp _ e _ s p m => AcceptsFup (s.withRates t) p m →
    (t.ports p).neighborRateRatioValid = true → (s.sync p).neighborPropDelay ≠ 0 →
      e.cumulativeScaledRateOffsetPtr.toNat + (t.ports p).neighborRateRatio.toNat ≠ 2 ^ 32
  | .delay .. | .initialSend _ | .reset _ => True

/-! ### What one step does -/

theorem setPort_sane_iff {pp : RatePort} (h : t.Sane) : (t.setPort p pp).Sane ↔ pp.Sane := by
  constructor
  · intro hsane
    have hp := hsane p
    rw [RateSystem.setPort] at hp
    dsimp only at hp
    rwa [Function.update_self] at hp
  · intro hpp i
    exact setPort_sane (h i) hpp

/-- **A response** keeps the ratios sane exactly if the clocks have gone at the same rate. -/
theorem pdelay_sane_iff {txTimestamp rxTimestamp : PtpTime} (h : t.Sane)
    (hstep : rateStep t (.pdelay p txTimestamp rxTimestamp) = some t') :
    t'.Sane ↔ RateEvent.Meets t (.pdelay p txTimestamp rxTimestamp) := by
  rw [← Option.some_inj.mp hstep, setPort_sane_iff h]
  have hpp : ((t.ports p).withResponse txTimestamp rxTimestamp).Sane := h p
  exact computePdelayRateRatio_sane_iff hpp

/-- The sum of the offset and the ratio, as `process_rx_fup` adds them up, is zero if it is 2^32. -/
theorem rateRatio_eq_zero_iff {offset ratio : UInt32} (h : ratio ≠ 0) :
    (offset + 1) + (ratio - 1) = 0 ↔ offset.toNat + ratio.toNat = 2 ^ 32 := by
  have hoffset := offset.toNat_lt
  have hratio := ratio.toNat_lt
  have hne : ratio.toNat ≠ 0 := fun hzero => h (UInt32.toNat.inj hzero)
  have hsum : (offset + 1) + (ratio - 1) = offset + ratio := by
    grind
  rw [hsum, ← UInt32.toNat_inj, UInt32.toNat_add]
  show (offset.toNat + ratio.toNat) % 2 ^ 32 = 0 ↔ _
  omega

/-- **A Follow_Up message** divides by zero exactly if the address that is stored for its rate offset
cancels the ratio. -/
theorem followUp_isSome_iff (h : t.Sane) :
    (rateStep t (.followUp host e l s p m)).isSome = true ↔
      RateEvent.Meets t (.followUp host e l s p m) := by
  rw [rateStep, Option.isSome_map, fupBeforeServo, RateEvent.Meets]
  by_cases haccepts : AcceptsFup (s.withRates t) p m
  · rw [if_pos haccepts, forall_prop_of_true haccepts, ← not_iff_not,
      Option.not_isSome_iff_eq_none, storeFup_isNone_iff, DividesByZero]
    show _ ∧ (s.sync p).neighborPropDelay ≠ 0 ∧ ((t.ports p).neighborRateRatio = 0 ∨
      e.cumulativeScaledRateOffsetPtr + 1 + ((t.ports p).neighborRateRatio - 1) = 0) ↔ _
    show (t.ports p).neighborRateRatioValid = true ∧ _ ↔ _
    rw [Classical.not_imp, Classical.not_imp, not_not]
    refine and_congr_right fun hvalid => and_congr_right fun _ => ?_
    have hne : (t.ports p).neighborRateRatio ≠ 0 := by
      intro hzero
      have hlimit := (h p hvalid).1
      rw [hzero] at hlimit
      exact absurd hlimit (by decide)
    rw [or_iff_right hne, rateRatio_eq_zero_iff hne]
  · rw [if_neg haccepts]
    exact iff_of_true rfl fun h => absurd h haccepts

/-- A step is defined and keeps the ratios sane exactly if it meets what is asked of it. -/
theorem rateStep_sane_iff {a : RateEvent n} (h : t.Sane) :
    ((rateStep t a).isSome = true ∧ ∀ t', rateStep t a = some t' → t'.Sane) ↔ a.Meets t := by
  have hkeeps : ∀ t' : RateSystem n, (∀ u, some t' = some u → u.Sane) ↔ t'.Sane := by
    intro t'
    simp only [Option.some_inj, forall_eq']
  cases a with
  | pdelay p txTimestamp rxTimestamp =>
    exact (and_iff_right rfl).trans ((hkeeps _).trans (pdelay_sane_iff h rfl))
  | delay p txTimestamp rxTimestamp =>
    refine (and_iff_right rfl).trans ((hkeeps _).trans (iff_of_true (fun i => ?_) trivial))
    exact computeDelayRateRatio_sane ((setPort_sane_iff h).mpr (h p))
  | initialSend p =>
    refine (and_iff_right rfl).trans ((hkeeps _).trans (iff_of_true ?_ trivial))
    exact (setPort_sane_iff h).mpr fun hvalid => absurd hvalid Bool.false_ne_true
  | reset p =>
    refine (and_iff_right rfl).trans ((hkeeps _).trans (iff_of_true ?_ trivial))
    exact (setPort_sane_iff h).mpr (h p)
  | followUp host e l s p m =>
    rw [followUp_isSome_iff h]
    refine and_iff_left fun t' ht' => ?_
    obtain ⟨u, -, rfl⟩ := Option.map_eq_some_iff.mp ht'
    exact h

/-! ### Runs -/

/-- **Every valid ratio of a run is within the limits, and no Follow_Up message divides by zero**,
exactly if each response comes with clocks that have gone at the same rate and no address that is
stored for a rate offset cancels the ratio. -/
theorem rateRatio_sane_iff (hstart : ∀ p, (t.ports p).neighborRateRatioValid = false)
    (events : List (RateEvent n)) :
    (Runs.Throughout rateStep RateSystem.Sane t events ∧
        Runs.AtEach rateStep (fun t a => (rateStep t a).isSome = true) t events) ↔
      Runs.AtEach rateStep (fun t a => a.Meets t) t events := by
  have hsane : t.Sane := by
    intro p hvalid
    exact absurd ((hstart p).symm.trans hvalid) Bool.false_ne_true
  exact Runs.throughout_and_atEach_iff (fun h => rateStep_sane_iff h) hsane

/-! ### A stalled clock -/

/-- A system of two ports after the initialisation. -/
def exampleRates : RateSystem 2 where
  ports p := { freshPort (UInt8.ofNat p) with
    delayReqTxLocalTimestamp := ⟨0, 0, 0⟩
    delayReqRxTimestamp := ⟨0, 0, 0⟩ }
  masterRateRatio := 0
  masterRateRatioValid := false

/-- Two responses that are received one second after the other, the second one with a transmit time
that is `later` seconds after that of the first. -/
def twoResponses (later : UInt32) : List (RateEvent 2) :=
  [.pdelay port0 ⟨0, 100, 0⟩ ⟨0, 200, 0⟩, .pdelay port0 ⟨0, 100 + later, 0⟩ ⟨0, 201, 0⟩]

/-- **A peer that repeats its transmit time** brings about a ratio of zero that is marked as
valid. -/
theorem rateRatio_zero :
    ¬ (Runs.Throughout rateStep RateSystem.Sane exampleRates (twoResponses 0) ∧
      Runs.AtEach rateStep (fun t a => (rateStep t a).isSome = true) exampleRates
        (twoResponses 0)) := by
  rintro ⟨hthroughout, -⟩
  have hrun : (Runs.run rateStep exampleRates (twoResponses 0)).map (fun t =>
      ((t.ports port0).neighborRateRatioValid, (t.ports port0).neighborRateRatio)) =
        some (true, 0) := by
    decide +kernel
  obtain ⟨t, ht, hrate⟩ := Option.map_eq_some_iff.mp hrun
  obtain ⟨hvalid, hzero⟩ := Prod.mk.inj hrate
  have hlimit := (hthroughout _ t List.prefix_rfl ht port0 hvalid).1
  rw [hzero] at hlimit
  exact absurd hlimit (by decide)

/-- A second of the peer is a second here. -/
theorem sameRate_second :
    SameRate (nanosecondsOf (timestampDifference ⟨0, 101, 0⟩ ⟨0, 100, 0⟩)).toNat
      (nanosecondsOf (timestampDifference ⟨0, 201, 0⟩ ⟨0, 200, 0⟩)).toNat :=
  Or.inr ⟨0, by decide +kernel⟩

/-- A peer that goes on by one second in a second. -/
theorem rateRatio_sane_second :
    Runs.Throughout rateStep RateSystem.Sane exampleRates (twoResponses 1) ∧
      Runs.AtEach rateStep (fun t a => (rateStep t a).isSome = true) exampleRates
        (twoResponses 1) := by
  have hstart : ∀ p, (exampleRates.ports p).neighborRateRatioValid = false := fun _ => rfl
  refine (rateRatio_sane_iff hstart (twoResponses 1)).mpr ?_
  refine ⟨fun hreceived => absurd hreceived (by decide), fun t ht => ?_⟩
  refine ⟨fun _ => ?_, fun _ _ => trivial⟩
  rw [← Option.some_inj.mp ht]
  exact Or.inr (Or.inr sameRate_second)

end Gptp
