/-
When the loop of MDPdelayReq comes to rest.

The loop stops exactly if the logarithm of the request interval is at least 0 and at most
30 (`mdPdelayReqStateMachine_isSome_iff`).  A negative one makes the interval zero ticks,
so that the timer that was just reset has expired already, and the machine resets and sends
again without end; one above 30 is an undefined shift.  The LinkDelaySyncIntervalSetting
machine stores both kinds (`signaled_interval_not_terminating`).
-/
import AvbSwitch.PdelaySteps

open Octets

namespace Gptp

variable {host : Host} {clock : Clock} {t t' : PdelaySystem} {p : UInt8} {pp pp' : PdelayPort}
  {s : MDPdelayReqState} {l : Locals} {fuel : ℕ}

/-! ### The interval -/

/-- The interval is a positive number of ticks. -/
def PdelayPort.PositiveInterval (pp : PdelayPort) : Prop :=
  0 ≤ pp.currentLogPdelayReqInterval ∧ pp.currentLogPdelayReqInterval ≤ 30

theorem positiveInterval_iff : pp.PositiveInterval ↔
    0 ≤ pp.currentLogPdelayReqInterval.toInt ∧ pp.currentLogPdelayReqInterval.toInt ≤ 30 := by
  rw [PdelayPort.PositiveInterval, Int8.le_iff_toInt_le, Int8.le_iff_toInt_le]
  rfl

theorem pdelayReqIntervalTicks_of_positive (h : pp.PositiveInterval) :
    ∃ ticks, 0 < ticks ∧ pp.pdelayReqIntervalTicks = some ticks := by
  obtain ⟨h0, h30⟩ := positiveInterval_iff.mp h
  refine ⟨_, ?_, if_pos ⟨?_, h.2⟩⟩
  -- one tick shifted by at most 30 places does not reach the sign
  · have hpow : 2 ^ pp.currentLogPdelayReqInterval.toInt.toNat < 2 ^ 32 :=
      Nat.pow_lt_pow_right (by omega) (by omega)
    rw [signedShift, if_pos h0, UInt32.lt_iff_toNat_lt, UInt32.ofInt]
    have hmod : (1000 / 1000 * 2 ^ pp.currentLogPdelayReqInterval.toInt.toNat % 2 ^ 32 : ℤ) =
        ((2 ^ pp.currentLogPdelayReqInterval.toInt.toNat : ℕ) : ℤ) := by
      rw [show (1000 / 1000 : ℤ) = 1 from rfl, one_mul]
      exact_mod_cast Nat.mod_eq_of_lt hpow
    rw [hmod, Int.toNat_natCast, UInt32.toNat_ofNat_of_lt' hpow]
    exact Nat.two_pow_pos _
  · exact Int8.le_iff_toInt_le.mpr (le_trans (by decide) h0)

/-- A shift to the right by one or more leaves nothing of one tick. -/
theorem pdelayReqIntervalTicks_of_negative {ticks : UInt32}
    (h : pp.currentLogPdelayReqInterval.toInt < 0) (hticks : pp.pdelayReqIntervalTicks = some ticks) :
    ticks = 0 := by
  obtain ⟨-, hticks⟩ := Option.ite_none_right_eq_some.mp hticks
  rw [← Option.some_inj.mp hticks, signedShift, if_neg (Int.not_le.mpr h)]
  have hdiv : (1000 / 1000 : ℤ) / 2 ^ (-pp.currentLogPdelayReqInterval.toInt).toNat = 0 :=
    Int.ediv_eq_zero_of_lt (by decide) (one_lt_pow₀ (by decide) (by omega))
  rw [hdiv]
  rfl

/-- Only a positive interval has not passed yet. -/
theorem positiveInterval_of_not_expired (h : pp.intervalExpired = some false) :
    pp.PositiveInterval := by
  obtain ⟨ticks, hticks, hle⟩ := Option.map_eq_some_iff.mp h
  have hle : ¬ ticks ≤ pp.pdelayIntervalTimer := of_decide_eq_false hle
  rw [positiveInterval_iff]
  constructor
  · by_contra hneg
    rw [pdelayReqIntervalTicks_of_negative (Int.not_le.mp hneg) hticks] at hle
    exact hle (UInt32.le_iff_toNat_le.mpr (Nat.zero_le _))
  · exact Int8.le_iff_toInt_le.mp (Option.ite_none_right_eq_some.mp hticks).1.2

theorem intervalExpired_of_positive (h : pp.PositiveInterval) :
    ∃ expired, pp.intervalExpired = some expired ∧ (pp.pdelayIntervalTimer = 0 → expired = false) := by
  obtain ⟨ticks, hpos, hticks⟩ := pdelayReqIntervalTicks_of_positive h
  refine ⟨_, congrArg _ hticks, fun htimer => ?_⟩
  rw [htimer]
  exact decide_eq_false (UInt32.not_le.mpr hpos)

/-! ### The loop does not stop -/

/-- The machine rests only where the port is not enabled or the interval has not passed. -/
theorem mdPdelayReqNextState_rest (h : mdPdelayReqNextState l pp = some none) :
    pp.mdPdelayReqState = .notEnabled ∧ (pp.portEnabled && pp.pttPortEnabled) = false ∨
      pp.intervalExpired = some false := by
  rw [mdPdelayReqNextState] at h
  -- a response that is pending makes the machine go on or reset
  cases hexpired : pp.intervalExpired <;> rw [hexpired] at h <;> grind

/-- **Without a positive interval the loop never stops**, from any state of an enabled port. -/
theorem mdPdelayReqTurns_eq_none (hinterval : ¬ (t.ports p).PositiveInterval)
    (hstate : (t.ports p).mdPdelayReqState = .notEnabled →
      (t.ports p).portEnabled && (t.ports p).pttPortEnabled) :
    mdPdelayReqTurns host clock l p fuel t = none := by
  induction fuel generalizing t with
  | zero => rfl
  | succ fuel ih =>
    match hnext : mdPdelayReqNextState l (t.ports p) with
    | none => exact mdPdelayReqTurns_of_undefined hnext
    | some none =>
      rcases mdPdelayReqNextState_rest hnext with ⟨hne, hdisabled⟩ | hexpired
      · exact absurd ((hstate hne).symm.trans hdisabled) nofun
      · exact absurd (positiveInterval_of_not_expired hexpired) hinterval
    | some (some s) =>
      -- the state entered is not the first one, and the interval is the same there
      have hentry : Entry host p s (t.ports p) ((mdPdelayReqSetState host clock t p s).ports p) :=
        mdPdelayReqSetState_entry
      rw [mdPdelayReqTurns_of_next hnext, ih, Option.map_none]
      · rwa [PdelayPort.PositiveInterval, hentry.interval]
      · intro hne
        exact absurd (hentry.state.symm.trans hne) (mdPdelayReqNextState_eq_iff.mp hnext).ne.2

/-! ### The loop stops -/

/-- The entry actions still to come, at most.  A request is sent at most once more: the timer
is zero after it, and a response that was reset is gone. -/
def entriesLeft (pp : PdelayPort) : ℕ :=
  let expired := pp.intervalExpired = some true
  match pp.mdPdelayReqState with
  | .notEnabled => 2
  | .reset => if pp.rcvdPdelayResp then 5 else 2
  | .initialSendPdelayReq | .sendPdelayReq =>
    if expired ∨ pp.rcvdPdelayResp then 4 else 1
  | .waitingForPdelayResp => if expired ∨ pp.rcvdPdelayResp then 3 else 0
  | .waitingForPdelayRespFollowUp => if expired ∨ pp.rcvdPdelayResp then 3 else 1
  | .waitingForPdelayIntervalTimer =>
    if expired then (if pp.rcvdPdelayResp then 5 else 2) else 0

theorem entriesLeft_lt_eight : entriesLeft pp < 8 := by
  grind [entriesLeft]

theorem intervalExpired_congr
    (hinterval : pp'.currentLogPdelayReqInterval = pp.currentLogPdelayReqInterval)
    (htimer : pp'.pdelayIntervalTimer = pp.pdelayIntervalTimer) :
    pp'.intervalExpired = pp.intervalExpired := by
  rw [PdelayPort.intervalExpired, PdelayPort.intervalExpired, PdelayPort.pdelayReqIntervalTicks,
    PdelayPort.pdelayReqIntervalTicks, hinterval, htimer]

/-- The interval of a port is that of the port after an entry action, if the timer is. -/
theorem Entry.intervalExpired (h : Entry host p s pp pp')
    (htimer : pp'.pdelayIntervalTimer = pp.pdelayIntervalTimer) :
    pp'.intervalExpired = pp.intervalExpired :=
  intervalExpired_congr h.interval htimer

/-- Each entry action leaves fewer of them to come. -/
theorem entriesLeft_lt (hpos : pp.PositiveInterval) (h : Transition l pp s)
    (hentry : Entry host p s pp pp') : entriesLeft pp' < entriesLeft pp := by
  have hpos' : pp'.PositiveInterval := by
    rwa [PdelayPort.PositiveInterval, hentry.interval]
  obtain ⟨expired', hexpired', hzero⟩ := intervalExpired_of_positive hpos'
  have hstate' := hentry.state
  have htimer := hentry.timer
  have hresp := hentry.resp
  have hsame := hentry.intervalExpired
  -- a request restarts the timer, and what was received is thrown away with a reset or taken
  -- with the response, so that neither can bring the machine back where it was
  cases h <;> simp only [entriesLeft, hstate'] <;> grind [timerAfter, respAfter]

theorem mdPdelayReqTurns_isSome (hpos : (t.ports p).PositiveInterval)
    (hfuel : entriesLeft (t.ports p) < fuel) :
    (mdPdelayReqTurns host clock l p fuel t).isSome := by
  induction fuel generalizing t with
  | zero => exact absurd hfuel (Nat.not_lt_zero _)
  | succ fuel ih =>
    match hnext : mdPdelayReqNextState l (t.ports p) with
    | none =>
      -- the next state is always defined where the interval is
      obtain ⟨expired, hexpired, -⟩ := intervalExpired_of_positive hpos
      rw [mdPdelayReqNextState, hexpired] at hnext
      grind
    | some none =>
      obtain ⟨t₁, ht₁, -⟩ := @mdPdelayReqTurns_of_rest host clock t p l fuel hnext
      exact Option.isSome_of_eq_some ht₁
    | some (some s) =>
      have hentry : Entry host p s (t.ports p) ((mdPdelayReqSetState host clock t p s).ports p) :=
        mdPdelayReqSetState_entry
      have hlt := entriesLeft_lt hpos (mdPdelayReqNextState_eq_iff.mp hnext) hentry
      rw [mdPdelayReqTurns_of_next hnext, Option.isSome_map]
      refine ih ?_ (by omega)
      rwa [PdelayPort.PositiveInterval, hentry.interval]

/-! ### The machine -/

/-- A port that is enabled enters the loop. -/
theorem mdPdelayReqStateMachine_of_enabled (hp2p : t.delayMechanism = delayMechanismP2P)
    (hport : (t.ports p).portEnabled && (t.ports p).pttPortEnabled) :
    mdPdelayReqStateMachine fuel host clock t p =
      mdPdelayReqTurns host clock (Locals.of p (t.ports p)) p fuel t := by
  rw [mdPdelayReqStateMachine, if_neg (not_not.mpr hp2p), ← Bool.not_and, hport, Bool.not_true,
    if_neg Bool.false_ne_true]

/-- A port that is not enabled, or without the peer delay mechanism, does not. -/
theorem mdPdelayReqStateMachine_of_disabled
    (h : t.delayMechanism = delayMechanismP2P →
      ((t.ports p).portEnabled && (t.ports p).pttPortEnabled) = false) :
    ∃ t' entries, mdPdelayReqStateMachine fuel host clock t p = some (t', entries) ∧
      (t' = t ∧ entries = [] ∧
          (t.delayMechanism = delayMechanismP2P → (t.ports p).mdPdelayReqState = .notEnabled) ∨
        t' = mdPdelayReqSetState host clock t p .notEnabled ∧ entries = [t'.ports p]) := by
  rw [mdPdelayReqStateMachine]
  split
  case isTrue hp2p => exact ⟨t, [], rfl, Or.inl ⟨rfl, rfl, fun h => absurd h hp2p⟩⟩
  case isFalse hp2p =>
    rw [← Bool.not_and, h (not_not.mp hp2p), Bool.not_false, if_pos rfl]
    split
    · exact ⟨_, _, rfl, Or.inr ⟨rfl, rfl⟩⟩
    case isFalse hstate => exact ⟨t, [], rfl, Or.inl ⟨rfl, rfl, fun _ => not_not.mp hstate⟩⟩

/-- **The loop of MDPdelayReq stops exactly if the logarithm of the interval is at least 0
and at most 30**, where it is entered at all. -/
theorem mdPdelayReqStateMachine_isSome_iff (host : Host) (clock : Clock) (t : PdelaySystem)
    (p : UInt8) :
    (∃ fuel, (mdPdelayReqStateMachine fuel host clock t p).isSome) ↔
      (t.delayMechanism = delayMechanismP2P → (t.ports p).portEnabled →
        (t.ports p).pttPortEnabled →
        0 ≤ (t.ports p).currentLogPdelayReqInterval ∧
          (t.ports p).currentLogPdelayReqInterval ≤ 30) := by
  by_cases henabled : t.delayMechanism = delayMechanismP2P ∧
      ((t.ports p).portEnabled && (t.ports p).pttPortEnabled)
  · obtain ⟨hp2p, hport⟩ := henabled
    obtain ⟨h1, h2⟩ := Bool.and_eq_true_iff.mp hport
    simp only [mdPdelayReqStateMachine_of_enabled hp2p hport, hp2p, h1, h2, forall_const]
    constructor
    · rintro ⟨fuel, hsome⟩
      by_contra hinterval
      rw [mdPdelayReqTurns_eq_none hinterval fun _ => hport] at hsome
      exact absurd hsome nofun
    · intro hinterval
      exact ⟨8, mdPdelayReqTurns_isSome hinterval entriesLeft_lt_eight⟩
  · refine iff_of_true ⟨0, ?_⟩ fun hp2p h1 h2 => absurd ⟨hp2p, by rw [h1, h2]; rfl⟩ henabled
    obtain ⟨t', entries, hmachine, -⟩ := @mdPdelayReqStateMachine_of_disabled host clock t p 0
      fun hp2p => Bool.eq_false_iff.mpr fun hport => henabled ⟨hp2p, hport⟩
    exact Option.isSome_of_eq_some hmachine

/-- The MAC address of the system. -/
def exampleMac : Vector UInt8 6 := #v[0, 1, 2, 3, 4, 5]

/-- A port of a system that has just been initialised. -/
def freshPort (p : UInt8) : PdelayPort :=
  .swInit exampleMac ⟨0, 0, 1⟩ 3 800 p
    (.staticMemory ((staticMemory ⟨1, 1⟩ fun _ : Fin 1 => ⟨3, 3⟩).ports ⟨0, Nat.one_pos⟩))

/-- A Signaling message that asks for two requests in a second. -/
def twoRequestsASecond : Mem := fun k => if k = signalingVariables then 0xFF else 0

/-- **A Signaling message stores an interval for which the loop does not stop.** -/
theorem signaled_interval_not_terminating :
    ∃ pp, (linkDelaySyncIntervalSettingStateMachine (freshPort 0)).bind
        (processRxSignaling twoRequestsASecond) = some pp ∧
      pp.currentLogPdelayReqInterval = -1 ∧
      ∀ fuel, mdPdelayReqStateMachine fuel ⟨true, 4, by decide⟩ ⟨#v[0, 0, 0, 0], ⟨0, 0, 0⟩⟩
        ⟨fun _ => pp, clockIdentityOf exampleMac, delayMechanismP2P⟩ 0 = none := by
  refine ⟨_, rfl, rfl, fun fuel => ?_⟩
  rw [mdPdelayReqStateMachine_of_enabled rfl rfl]
  exact mdPdelayReqTurns_eq_none (fun hinterval => absurd hinterval.1 (by decide)) fun _ => rfl

end Gptp
