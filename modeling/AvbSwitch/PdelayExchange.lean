/-
Whether the delay is computed from the timestamps of one exchange.

The handlers store the timestamp and the buffer of a response before the machine has looked
at it.  `exchange_throughout` says that the timestamps are nevertheless those of one
exchange (`OneExchange`) as long as no step is of one of these kinds (`Undisturbed`):

* a frame is taken that is accepted but does not echo the request (see `PdelayMatching`);
* a response with another sequence number comes in the wait for the follow-up, where it is
  ignored, but its timestamp is not;
* the interval ends while a response is pending: the next request is sent in the same run,
  and the response is still compared with the previous one.

The first kind has no part in whether Trsp2 and Treq4 are of one response
(`sameResponse_throughout`).
-/
import AvbSwitch.PdelayMatching
import AvbSwitch.Runs

open Octets Runs

namespace Gptp

variable {host : Host} {clock : Clock} {t t' : PdelaySystem} {p : UInt8} {pp pp' : PdelayPort}
  {s : MDPdelayReqState} {l : Locals} {fuel : ℕ} {entries : List PdelayPort} {m : Mem}
  {E : Mem → Mem → Prop}

/-! ### Steps -/

/-- What happens to the port. -/
inductive PdelayInput
  | pdelayResp (clock : Clock) (m : Mem)
  | pdelayRespFup (clock : Clock) (m : Mem)
  | tick
  | run (clock : Clock)

/-- The system, the number of frames received so far, and the port as it was after each entry
action of the last step. -/
structure PdelayRun where
  system : PdelaySystem
  received : ℕ
  entered : List PdelayPort

/-- What the handlers and the timer do to the port before the machine runs. -/
def arrive (host : Host) (r : PdelayRun) : PdelayInput → PdelayPort → PdelayPort
  | .pdelayResp clock m, pp => takePdelayResp host clock ⟨m, r.received⟩ pp
  | .pdelayRespFup _ m, pp => takePdelayRespFup ⟨m, r.received⟩ pp
  | .tick, pp => { pp with pdelayIntervalTimer := pp.pdelayIntervalTimer + 1 }
  | .run _, pp => pp

def pdelayStep (host : Host) (p : UInt8) (r : PdelayRun) (input : PdelayInput) :
    Option PdelayRun :=
  match input with
  | .pdelayResp clock m =>
    (processRxPdelayResp 8 host clock r.system p ⟨m, r.received⟩).map fun r' =>
      ⟨r'.1, r.received + 1, r'.2⟩
  | .pdelayRespFup clock m =>
    (processRxPdelayRespFup 8 host clock r.system p ⟨m, r.received⟩).map fun r' =>
      ⟨r'.1, r.received + 1, r'.2⟩
  | .tick => some ⟨r.system.modify p (arrive host r .tick), r.received, []⟩
  | .run clock =>
    (mdPdelayReqStateMachine 8 host clock r.system p).map fun r' => ⟨r'.1, r.received, r'.2⟩

/-! ### What should hold, and when it does -/

/-- Trsp2 and Treq4 are of one response, which echoes the request, and so does the follow-up
that Trsp3 is of. -/
def OneExchange (pp : PdelayPort) : Prop :=
  pp.pdelayReqRxTimestamp.frame = pp.pdelayRespRxTimestamp.frame ∧
    Echoes pp.pdelayReq pp.pdelayReqRxTimestamp.frame.octets ∧
    Echoes pp.pdelayReq pp.pdelayRespTxTimestamp.frame.octets

/-- The same, where the frames that are taken have `E` to do with the request. -/
def OneExchangeOf (E : Mem → Mem → Prop) (pp : PdelayPort) : Prop :=
  pp.pdelayReqRxTimestamp.frame = pp.pdelayRespRxTimestamp.frame ∧
    E pp.pdelayReq pp.pdelayReqRxTimestamp.frame.octets ∧
    E pp.pdelayReq pp.pdelayRespTxTimestamp.frame.octets

/-- Whenever the wait for the interval is entered, the timestamps are of one exchange. -/
def ExchangesSound (r : PdelayRun) : Prop :=
  ∀ pp ∈ r.entered, pp.mdPdelayReqState = .waitingForPdelayIntervalTimer → OneExchange pp

/-- Whenever the wait for the interval is entered, Trsp2 and Treq4 are of one response. -/
def SameResponse (r : PdelayRun) : Prop :=
  ∀ pp ∈ r.entered, pp.mdPdelayReqState = .waitingForPdelayIntervalTimer →
    pp.pdelayReqRxTimestamp.frame = pp.pdelayRespRxTimestamp.frame

/-- The port waits for a response, or goes on to wait for it. -/
def Awaiting (pp : PdelayPort) : Prop :=
  pp.mdPdelayReqState = .waitingForPdelayResp ∨
    (pp.mdPdelayReqState = .initialSendPdelayReq ∨ pp.mdPdelayReqState = .sendPdelayReq) ∧
      pp.rcvdMDTimestampReceive

/-- The machine takes the pending response. -/
def TakesResp (p : UInt8) (pp : PdelayPort) : Prop :=
  Awaiting pp ∧ pp.intervalExpired = some false ∧ pp.rcvdPdelayResp ∧
    Accepts p pp pp.rcvdPdelayRespPtr.octets

/-- The machine takes the pending follow-up, after the response or on its own. -/
def TakesFup (p : UInt8) (pp : PdelayPort) : Prop :=
  (TakesResp p pp ∨
    pp.mdPdelayReqState = .waitingForPdelayRespFollowUp ∧ pp.intervalExpired = some false ∧
      ¬ (pp.rcvdPdelayResp ∧
        sequenceIdOf pp.rcvdPdelayRespPtr.octets = pp.pdelayReqSequenceId.toNat)) ∧
    pp.rcvdPdelayRespFollowUp ∧ Accepts p pp pp.rcvdPdelayRespFollowUpPtr.octets

/-- What is asked of a step: `before` is the port before it, `pp` the port as the machine
finds it. -/
structure Undisturbed (p : UInt8) (input : PdelayInput) (before pp : PdelayPort) : Prop where
  resp_echoes : TakesResp p pp → Echoes pp.pdelayReq pp.rcvdPdelayRespPtr.octets
  fup_echoes : TakesFup p pp → Echoes pp.pdelayReq pp.rcvdPdelayRespFollowUpPtr.octets
  no_stray : ∀ clock m, input = .pdelayResp clock m →
    before.mdPdelayReqState = .waitingForPdelayRespFollowUp →
    before.intervalExpired = some false → sequenceIdOf m = before.pdelayReqSequenceId.toNat
  no_late : pp.mdPdelayReqState = .waitingForPdelayIntervalTimer → pp.intervalExpired = some true →
    p = 8 ∨ pp.rcvdMDTimestampReceive → pp.rcvdPdelayResp →
    ¬ Accepts p pp pp.rcvdPdelayRespPtr.octets

/-- What is asked of a step for the response alone: none comes in where it is not looked at, and
none is left over from the interval before. -/
structure Unmixed (p : UInt8) (input : PdelayInput) (before pp : PdelayPort) : Prop where
  no_stray : ∀ clock m, input = .pdelayResp clock m →
    before.mdPdelayReqState = .waitingForPdelayRespFollowUp →
    before.intervalExpired = some false → sequenceIdOf m = before.pdelayReqSequenceId.toNat
  no_late : pp.mdPdelayReqState = .waitingForPdelayIntervalTimer → pp.intervalExpired = some true →
    p = 8 ∨ pp.rcvdMDTimestampReceive → pp.rcvdPdelayResp →
    ¬ Accepts p pp pp.rcvdPdelayRespPtr.octets

/-- The guard of a step.  A port that takes no part is not touched by frames. -/
def Guarded (host : Host) (p : UInt8) (r : PdelayRun) (input : PdelayInput) : Prop :=
  Operating r.system p →
    Undisturbed p input (r.system.ports p) (arrive host r input (r.system.ports p))

/-- The guard of a step for the response alone. -/
def UnmixedStep (host : Host) (p : UInt8) (r : PdelayRun) (input : PdelayInput) : Prop :=
  Operating r.system p →
    Unmixed p input (r.system.ports p) (arrive host r input (r.system.ports p))

/-- What is asked of a step where the frames that are taken have `E` to do with the request. -/
structure UnmixedBy (E : Mem → Mem → Prop) (p : UInt8) (input : PdelayInput)
    (before pp : PdelayPort) : Prop extends Unmixed p input before pp where
  resp_taken : TakesResp p pp → E pp.pdelayReq pp.rcvdPdelayRespPtr.octets
  fup_taken : TakesFup p pp → E pp.pdelayReq pp.rcvdPdelayRespFollowUpPtr.octets

/-- The guard of a step where the frames that are taken have `E` to do with the request. -/
def Steady (E : Mem → Mem → Prop) (host : Host) (p : UInt8) (r : PdelayRun) (input : PdelayInput) :
    Prop :=
  Operating r.system p →
    UnmixedBy E p input (r.system.ports p) (arrive host r input (r.system.ports p))

theorem Guarded.steady {r : PdelayRun} {input : PdelayInput} (h : Guarded host p r input) :
    Steady Echoes host p r input := by
  intro hop
  obtain ⟨hresp, hfup, hstray, hlate⟩ := h hop
  exact ⟨⟨hstray, hlate⟩, hresp, hfup⟩

theorem UnmixedStep.steady {r : PdelayRun} {input : PdelayInput} (h : UnmixedStep host p r input) :
    Steady (fun _ _ => True) host p r input :=
  fun hop => ⟨h hop, fun _ => trivial, fun _ => trivial⟩

/-! ### Inside the loop -/

theorem not_awaiting_of_state (h : pp.mdPdelayReqState ≠ .waitingForPdelayResp)
    (h' : pp.mdPdelayReqState ≠ .initialSendPdelayReq) (h'' : pp.mdPdelayReqState ≠ .sendPdelayReq) :
    ¬ Awaiting pp := by
  rintro (hs | ⟨hs | hs, -⟩)
  · exact h hs
  · exact h' hs
  · exact h'' hs

/-- What holds of the port at each turn of the loop. -/
structure InLoop (E : Mem → Mem → Prop) (l : Locals) (p : UInt8) (pp : PdelayPort) : Prop where
  received : pp.pdelayRespRxTimestamp.frame = pp.rcvdPdelayRespPtr
  awaiting : Awaiting pp → pp.intervalExpired = some false → pp.rcvdPdelayResp →
    l.resp.samePort → l.resp.sameSequence →
    E pp.pdelayReq pp.rcvdPdelayRespPtr.octets ∧
      (pp.rcvdPdelayRespFollowUp → l.fup.samePort → l.fup.sameSequence →
        E pp.pdelayReq pp.rcvdPdelayRespFollowUpPtr.octets)
  followUp : pp.mdPdelayReqState = .waitingForPdelayRespFollowUp →
    pp.intervalExpired = some false → (pp.rcvdPdelayResp → l.resp.sameSequence = false) →
    pp.pdelayReqRxTimestamp.frame = pp.rcvdPdelayRespPtr ∧
      E pp.pdelayReq pp.rcvdPdelayRespPtr.octets ∧
      (pp.rcvdPdelayRespFollowUp → l.fup.samePort → l.fup.sameSequence →
        E pp.pdelayReq pp.rcvdPdelayRespFollowUpPtr.octets)
  elapsed : pp.mdPdelayReqState = .waitingForPdelayIntervalTimer → pp.intervalExpired = some true →
    p = 8 ∨ pp.rcvdMDTimestampReceive → pp.rcvdPdelayResp →
    ¬ (l.resp.samePort ∧ l.resp.sameSequence)
  reset : pp.mdPdelayReqState = .reset → pp.rcvdPdelayResp = false

/-- Without a pending response there is nothing to go wrong, but in the wait for a follow-up. -/
theorem InLoop.of_no_resp (hreceived : pp.pdelayRespRxTimestamp.frame = pp.rcvdPdelayRespPtr)
    (hresp : pp.rcvdPdelayResp = false)
    (hstate : pp.mdPdelayReqState ≠ .waitingForPdelayRespFollowUp) : InLoop E l p pp where
  received := hreceived
  awaiting _ _ h := absurd (hresp.symm.trans h) nofun
  followUp h := absurd h hstate
  elapsed _ _ _ h := absurd (hresp.symm.trans h) nofun
  reset _ := hresp

/-- Before the response is taken, only a response that is pending can go wrong. -/
theorem InLoop.of_awaiting (hreceived : pp.pdelayRespRxTimestamp.frame = pp.rcvdPdelayRespPtr)
    (hfup : pp.mdPdelayReqState ≠ .waitingForPdelayRespFollowUp)
    (htimer : pp.mdPdelayReqState ≠ .waitingForPdelayIntervalTimer)
    (hreset : pp.mdPdelayReqState ≠ .reset)
    (hawaiting : Awaiting pp → pp.intervalExpired = some false → pp.rcvdPdelayResp →
      l.resp.samePort → l.resp.sameSequence →
      E pp.pdelayReq pp.rcvdPdelayRespPtr.octets ∧
        (pp.rcvdPdelayRespFollowUp → l.fup.samePort → l.fup.sameSequence →
          E pp.pdelayReq pp.rcvdPdelayRespFollowUpPtr.octets)) : InLoop E l p pp where
  received := hreceived
  awaiting := hawaiting
  followUp h := absurd h hfup
  elapsed h := absurd h htimer
  reset h := absurd h hreset

/-- Every entry action keeps it, and the wait for the interval is entered with the timestamps
of one exchange. -/
theorem InLoop.entered (h : InLoop E l p pp) (htrans : Transition l pp s)
    (hentry : Entry host p s pp pp') :
    InLoop E l p pp' ∧
      (pp'.mdPdelayReqState = .waitingForPdelayIntervalTimer → OneExchangeOf E pp') := by
  have hreceived : pp'.pdelayRespRxTimestamp.frame = pp'.rcvdPdelayRespPtr := by
    rw [hentry.respRx, hentry.respPtr, h.received]
  have hstate := hentry.state
  have hresp := hentry.resp
  cases htrans with
  | enabled | unsent | unanswered | disturbed =>
    exact ⟨.of_no_resp hreceived hresp (hstate.trans_ne nofun),
      fun h => absurd (hstate.symm.trans h) nofun⟩
  | repeated hs =>
    -- the reset has thrown the response away
    exact ⟨.of_no_resp hreceived (hresp.trans (h.reset hs)) (hstate.trans_ne nofun),
      fun h => absurd (hstate.symm.trans h) nofun⟩
  | sent hs hreceive =>
    refine ⟨.of_awaiting hreceived (hstate.trans_ne nofun) (hstate.trans_ne nofun)
      (hstate.trans_ne nofun) fun _ hexpired => ?_, fun h => absurd (hstate.symm.trans h) nofun⟩
    rw [hresp, hentry.request.1, hentry.respPtr, hentry.fup, hentry.fupPtr]
    rw [hentry.intervalExpired hentry.timer] at hexpired
    exact h.awaiting (Or.inr ⟨hs, hreceive⟩) hexpired
  | answered hs hexpired hpending hport hsequence =>
    obtain ⟨hechoes, hfup⟩ := h.awaiting (Or.inl hs) hexpired hpending hport hsequence
    refine ⟨⟨hreceived, fun haw => ?_, fun _ _ _ => ?_, fun h => absurd (hstate.symm.trans h) nofun,
      fun h => absurd (hstate.symm.trans h) nofun⟩, fun h => absurd (hstate.symm.trans h) nofun⟩
    · exact absurd haw (not_awaiting_of_state (hstate.trans_ne nofun) (hstate.trans_ne nofun)
        (hstate.trans_ne nofun))
    · rw [hentry.reqRx, hentry.respPtr, hentry.request.1, hentry.fup, hentry.fupPtr]
      exact ⟨rfl, hechoes, hfup⟩
  | followedUp hs hexpired hquiet hpending hport hsequence =>
    obtain ⟨hreqRx, hechoes, hfup⟩ := h.followUp hs hexpired hquiet
    have hexpired' := (hentry.intervalExpired hentry.timer).trans hexpired
    refine ⟨⟨hreceived, fun haw => ?_, fun h => absurd (hstate.symm.trans h) nofun,
      fun _ h => absurd (hexpired'.symm.trans h) nofun,
      fun h => absurd (hstate.symm.trans h) nofun⟩, fun _ => ?_⟩
    · exact absurd haw (not_awaiting_of_state (hstate.trans_ne nofun) (hstate.trans_ne nofun)
        (hstate.trans_ne nofun))
    · rw [OneExchangeOf, hentry.reqRx, hentry.respRx, hentry.respTx, hentry.request.1, hreqRx]
      exact ⟨h.received.symm, hechoes, hfup hpending hport hsequence⟩
  | elapsed hs hexpired =>
    refine ⟨.of_awaiting hreceived (hstate.trans_ne nofun) (hstate.trans_ne nofun)
      (hstate.trans_ne nofun) fun haw hexpired' hpending hport hsequence => ?_,
      fun h => absurd (hstate.symm.trans h) nofun⟩
    -- the response was pending before the request was sent
    have hreceive : p = 8 ∨ pp.rcvdMDTimestampReceive := by
      rcases haw with haw | ⟨-, hreceive⟩
      · exact absurd (hstate.symm.trans haw) nofun
      · have hor : (decide (p = 8) || pp.rcvdMDTimestampReceive) = true :=
          hentry.timestampReceive.symm.trans hreceive
        simpa only [Bool.or_eq_true, decide_eq_true_eq] using hor
    exact absurd ⟨hport, hsequence⟩
      (h.elapsed hs hexpired hreceive (hresp.symm.trans hpending))

/-! ### Steps keep it -/

/-- What holds of a port between the steps. -/
structure AtRest (E : Mem → Mem → Prop) (t : PdelaySystem) (p : UInt8) : Prop where
  received : (t.ports p).pdelayRespRxTimestamp.frame = (t.ports p).rcvdPdelayRespPtr
  followUp : t.delayMechanism = delayMechanismP2P →
    (t.ports p).mdPdelayReqState = .waitingForPdelayRespFollowUp →
    (t.ports p).pdelayReqRxTimestamp.frame = (t.ports p).rcvdPdelayRespPtr ∧
      E (t.ports p).pdelayReq (t.ports p).rcvdPdelayRespPtr.octets
  reset : t.delayMechanism = delayMechanismP2P → (t.ports p).mdPdelayReqState ≠ .reset

/-- The loop leaves a port at rest, and enters the wait for the interval as it should. -/
theorem InLoop.turns (h : InLoop E l p (t.ports p))
    (hrun : mdPdelayReqTurns host clock l p fuel t = some (t', entries)) :
    AtRest E t' p ∧ ∀ pp ∈ entries,
      pp.mdPdelayReqState = .waitingForPdelayIntervalTimer → OneExchangeOf E pp := by
  have hidle : ∀ {pp}, InLoop E l p pp → pp.mdPdelayReqState = .notEnabled →
      InLoop E l p { pp with pdelayIntervalTimer := 0 } := by
    intro pp hpp hstate
    have hother : ∀ s, s ≠ .notEnabled → pp.mdPdelayReqState ≠ s := fun s hs h =>
      hs (h.symm.trans hstate)
    refine .of_awaiting hpp.received (hother _ MDPdelayReqState.noConfusion)
      (hother _ MDPdelayReqState.noConfusion) (hother _ MDPdelayReqState.noConfusion) fun haw => ?_
    exact absurd haw (not_awaiting_of_state (hother _ MDPdelayReqState.noConfusion)
      (hother _ MDPdelayReqState.noConfusion) (hother _ MDPdelayReqState.noConfusion))
  -- `InLoop` is the invariant of the loop, and where the loop ends the machine rests
  obtain ⟨hend, hentered⟩ := mdPdelayReqTurns_entered (fun h => h.entered) hidle h hrun
  have hrest := mdPdelayReqTurns_rest hrun
  rw [mdPdelayReqNextState] at hrest
  refine ⟨⟨hend.received, fun _ hstate => ?_, fun _ hstate => ?_⟩, hentered⟩
  · -- the interval has not passed, and no response is pending that resets
    rw [hstate] at hrest
    obtain ⟨expired, hexpired, hnone⟩ := Option.map_eq_some_iff.mp hrest
    obtain ⟨hreqRx, hechoes, -⟩ := hend.followUp hstate (by grind) (by grind)
    exact ⟨hreqRx, hechoes⟩
  · rw [hstate] at hrest
    cases hrest

theorem AtRest.of_notEnabled
    (hreceived : (t.ports p).pdelayRespRxTimestamp.frame = (t.ports p).rcvdPdelayRespPtr)
    (hstate : t.delayMechanism = delayMechanismP2P →
      (t.ports p).mdPdelayReqState = .notEnabled) : AtRest E t p where
  received := hreceived
  followUp hp2p h := absurd ((hstate hp2p).symm.trans h) nofun
  reset hp2p h := absurd ((hstate hp2p).symm.trans h) nofun

/-- The machine leaves a port at rest, and enters the wait for the interval as it should. -/
theorem machine_atRest
    (h : Operating t p → InLoop E (Locals.of p (t.ports p)) p (t.ports p))
    (hreceived : (t.ports p).pdelayRespRxTimestamp.frame = (t.ports p).rcvdPdelayRespPtr)
    (hrun : mdPdelayReqStateMachine fuel host clock t p = some (t', entries)) :
    AtRest E t' p ∧ ∀ pp ∈ entries,
      pp.mdPdelayReqState = .waitingForPdelayIntervalTimer → OneExchangeOf E pp := by
  by_cases hop : Operating t p
  · rw [mdPdelayReqStateMachine_of_enabled hop.1 hop.2] at hrun
    exact (h hop).turns hrun
  · obtain ⟨t₁, entries₁, hmachine, hcases⟩ := @mdPdelayReqStateMachine_of_disabled host clock t p
      fuel fun hp2p => Bool.eq_false_iff.mpr fun hport => hop ⟨hp2p, hport⟩
    obtain ⟨rfl, rfl⟩ := Prod.mk.inj (Option.some_inj.mp (hmachine.symm.trans hrun))
    rcases hcases with ⟨rfl, rfl, hstate⟩ | ⟨rfl, rfl⟩
    · exact ⟨.of_notEnabled hreceived hstate, List.forall_mem_nil _⟩
    · have hentry := @mdPdelayReqSetState_entry host clock t p .notEnabled
      refine ⟨.of_notEnabled ?_ fun _ => hentry.state, fun pp hpp h => ?_⟩
      · rw [hentry.respRx, hentry.respPtr, hreceived]
      · obtain rfl := List.mem_singleton.mp hpp
        exact absurd (hentry.state.symm.trans h) nofun

section Arrival

variable {r r' : PdelayRun} {input : PdelayInput}

theorem arrive_state : (arrive host r input pp).mdPdelayReqState = pp.mdPdelayReqState := by
  cases input <;> rfl

theorem arrive_toPort : (arrive host r input pp).toPort = pp.toPort := by
  cases input <;> rfl

theorem arrive_received (h : pp.pdelayRespRxTimestamp.frame = pp.rcvdPdelayRespPtr) :
    (arrive host r input pp).pdelayRespRxTimestamp.frame =
      (arrive host r input pp).rcvdPdelayRespPtr := by
  cases input
  case pdelayResp => rfl
  all_goals exact h

/-- A pending response that fits the locals is one that is accepted. -/
theorem accepts_of_resp (hresp : pp.rcvdPdelayResp) (hport : (Locals.of p pp).resp.samePort)
    (hsequence : (Locals.of p pp).resp.sameSequence) :
    Accepts p pp pp.rcvdPdelayRespPtr.octets := by
  rw [Locals.of, if_pos hresp] at hport hsequence
  exact accepts_iff_comparison.mpr ⟨hport, hsequence⟩

theorem accepts_of_fup (hfup : pp.rcvdPdelayRespFollowUp) (hport : (Locals.of p pp).fup.samePort)
    (hsequence : (Locals.of p pp).fup.sameSequence) :
    Accepts p pp pp.rcvdPdelayRespFollowUpPtr.octets := by
  rw [Locals.of, if_pos hfup] at hport hsequence
  exact accepts_iff_comparison.mpr ⟨hport, hsequence⟩

/-- A pending response has the sequence number that the machine asks for. -/
theorem sequence_of_resp (hresp : pp.rcvdPdelayResp)
    (hquiet : pp.rcvdPdelayResp → (Locals.of p pp).resp.sameSequence = false) :
    sequenceIdOf pp.rcvdPdelayRespPtr.octets ≠ pp.pdelayReqSequenceId.toNat := by
  have hfalse := hquiet hresp
  rw [Locals.of, if_pos hresp] at hfalse
  intro h
  exact Bool.noConfusion ((sameSequence_iff.mpr h).symm.trans hfalse)

/-- The port as the machine finds it, after a step that meets the guard. -/
theorem Steady.inLoop (hrest : AtRest E r.system p) (hop : Operating r.system p)
    (h : Steady E host p r input) :
    InLoop E (Locals.of p (arrive host r input (r.system.ports p))) p
      (arrive host r input (r.system.ports p)) where
  received := arrive_received hrest.received
  awaiting haw hexpired hresp hport hsequence := by
    have htakes : TakesResp p (arrive host r input (r.system.ports p)) :=
      ⟨haw, hexpired, hresp, accepts_of_resp hresp hport hsequence⟩
    refine ⟨(h hop).resp_taken htakes, fun hfup hport' hsequence' => ?_⟩
    exact (h hop).fup_taken ⟨Or.inl htakes, hfup, accepts_of_fup hfup hport' hsequence'⟩
  followUp hstate hexpired hquiet := by
    have hbefore := arrive_state.symm.trans hstate
    have hkept := hrest.followUp hop.1 hbefore
    have hfup : (arrive host r input (r.system.ports p)).rcvdPdelayRespFollowUp →
        (Locals.of p (arrive host r input (r.system.ports p))).fup.samePort →
        (Locals.of p (arrive host r input (r.system.ports p))).fup.sameSequence →
        E (arrive host r input (r.system.ports p)).pdelayReq
          (arrive host r input (r.system.ports p)).rcvdPdelayRespFollowUpPtr.octets := by
      intro hfup hport hsequence
      refine (h hop).fup_taken ⟨Or.inr ⟨hstate, hexpired, fun hpending => ?_⟩, hfup,
        accepts_of_fup hfup hport hsequence⟩
      exact sequence_of_resp hpending.1 hquiet hpending.2
    cases input with
    | pdelayResp clock m =>
      -- the response that has just come would reset the machine
      have hpending : (arrive host r (.pdelayResp clock m) (r.system.ports p)).rcvdPdelayResp :=
        rfl
      have hbefore' : (r.system.ports p).intervalExpired = some false :=
        (intervalExpired_congr rfl rfl).symm.trans hexpired
      have hother := sequence_of_resp hpending hquiet
      simp only [arrive, takePdelayResp] at hother
      exact absurd ((h hop).no_stray clock m rfl hbefore hbefore') hother
    | pdelayRespFup | tick | run => exact ⟨hkept.1, hkept.2, hfup⟩
  elapsed hstate hexpired hreceive hresp hboth :=
    (h hop).no_late hstate hexpired hreceive hresp (accepts_of_resp hresp hboth.1 hboth.2)
  reset hstate := absurd (arrive_state.symm.trans hstate) (hrest.reset hop.1)

theorem Steady.machine (hrest : AtRest E r.system p) (hsteady : Steady E host p r input)
    (hrun : mdPdelayReqStateMachine fuel host clock
      (r.system.modify p (arrive host r input)) p = some (t', entries)) :
    AtRest E t' p ∧ ∀ pp ∈ entries,
      pp.mdPdelayReqState = .waitingForPdelayIntervalTimer → OneExchangeOf E pp := by
  refine machine_atRest ?_ ?_ hrun
  · rw [Operating, PdelaySystem.modify_self, arrive_toPort]
    intro hop
    exact hsteady.inLoop hrest hop
  · rw [PdelaySystem.modify_self]
    exact arrive_received hrest.received

/-- **A step that meets the guard leaves the port at rest, and does not mix two exchanges.** -/
theorem pdelayStep_steady (hrest : AtRest E r.system p) (hsteady : Steady E host p r input)
    (h : pdelayStep host p r input = some r') : AtRest E r'.system p ∧ ∀ pp ∈ r'.entered,
      pp.mdPdelayReqState = .waitingForPdelayIntervalTimer → OneExchangeOf E pp := by
  cases input with
  | pdelayResp clock m | pdelayRespFup clock m =>
    obtain ⟨⟨t', entries⟩, hrun, rfl⟩ := Option.map_eq_some_iff.mp h
    exact hsteady.machine hrest hrun
  | tick =>
    obtain rfl := Option.some_inj.mp h
    refine ⟨⟨?_, ?_, ?_⟩, List.forall_mem_nil _⟩ <;> rw [PdelaySystem.modify_self]
    · exact hrest.received
    · exact hrest.followUp
    · exact hrest.reset
  | run clock =>
    obtain ⟨⟨t', entries⟩, hrun, rfl⟩ := Option.map_eq_some_iff.mp h
    refine hsteady.machine hrest (?_ : mdPdelayReqStateMachine 8 host clock
      (r.system.modify p fun pp => pp) p = some (t', entries))
    rw [PdelaySystem.modify_id]
    exact hrun

end Arrival

/-! ### Runs -/

/-- The port has just entered the wait for a response.  The last response that was received, if
any, is the one that Treq4 is of. -/
structure JustEntered (p : UInt8) (r : PdelayRun) : Prop where
  state : (r.system.ports p).mdPdelayReqState = .waitingForPdelayResp
  received : (r.system.ports p).pdelayRespRxTimestamp.frame = (r.system.ports p).rcvdPdelayRespPtr
  entered : r.entered = []

theorem JustEntered.atRest {r : PdelayRun} (h : JustEntered p r) : AtRest E r.system p where
  received := h.received
  followUp _ hstate := absurd (h.state.symm.trans hstate) nofun
  reset _ := h.state.trans_ne nofun

theorem JustEntered.not_mem {r : PdelayRun} (h : JustEntered p r) : pp ∉ r.entered := by
  rw [h.entered]
  exact List.not_mem_nil

/-- **As long as every step is undisturbed, the delay is computed from the timestamps of one
exchange.** -/
theorem exchange_throughout (host : Host) (p : UInt8) (r : PdelayRun) (inputs : List PdelayInput)
    (hstart : JustEntered p r) (hguard : EachStep (pdelayStep host p) (Guarded host p) r inputs) :
    Throughout (pdelayStep host p) ExchangesSound r inputs :=
  throughout_of_eachStep (fun hrest hguard h => pdelayStep_steady hrest hguard.steady h)
    hstart.atRest (fun _ hpp => absurd hpp hstart.not_mem) hguard

/-- **Trsp2 and Treq4 are of one response** as long as no response comes in where it is not looked
at, or is left over; whether what is accepted echoes the request has no part in it. -/
theorem sameResponse_throughout (host : Host) (p : UInt8) (r : PdelayRun)
    (inputs : List PdelayInput) (hstart : JustEntered p r)
    (hguard : EachStep (pdelayStep host p) (UnmixedStep host p) r inputs) :
    Throughout (pdelayStep host p) SameResponse r inputs := by
  have hstep : ∀ {r input r'}, AtRest (fun _ _ => True) r.system p → UnmixedStep host p r input →
      pdelayStep host p r input = some r' →
      AtRest (fun _ _ => True) r'.system p ∧ SameResponse r' := by
    intro r input r' hrest hunmixed h
    obtain ⟨hrest', hentered⟩ := pdelayStep_steady hrest hunmixed.steady h
    exact ⟨hrest', fun pp hpp hstate => (hentered pp hpp hstate).1⟩
  exact throughout_of_eachStep hstep hstart.atRest (fun _ hpp => absurd hpp hstart.not_mem) hguard

/-! Port 8 again.  Its first request is not echoed by what it accepts; the one with the sequence
number 0, from a port with the number 8, is. -/

/-- A frame with the identity of port 8 and a sequence number in the last two of four octets. -/
def acceptedFrame (sequence : UInt8) : Mem :=
  put (putList (fun _ => 0) 44 ((clockIdentityOf exampleMac).toList ++ [0, 8])) 33
    sequence

/-- Port 8 waits for the response to a request with the sequence number 0. -/
def requestZero : PdelaySystem :=
  mdPdelayReqSetState bigEndianHost atBoot
    (mdPdelayReqSetState bigEndianHost atBoot
      ⟨fun p => { freshPort p with usPortNumber := 8, pdelayReqSequenceId := 0xFFFE },
        clockIdentityOf exampleMac, delayMechanismP2P⟩ 8 .sendPdelayReq)
    8 .waitingForPdelayResp

/-- A response and its follow-up. -/
def oneExchange : List PdelayInput :=
  [.pdelayResp atBoot (acceptedFrame 0), .pdelayRespFup atBoot (acceptedFrame 0)]

theorem exchange_throughout_oneExchange :
    Throughout (pdelayStep bigEndianHost 8) ExchangesSound ⟨requestZero, 1, []⟩ oneExchange := by
  refine exchange_throughout bigEndianHost 8 ⟨requestZero, 1, []⟩ oneExchange ⟨rfl, rfl, rfl⟩ ?_
  rw [oneExchange, eachStep_cons rfl, eachStep_cons rfl]
  refine ⟨fun _ => ⟨fun _ => ?_, fun h => ?_, fun _ _ _ h => absurd h nofun,
    fun h => absurd h nofun⟩, fun _ => ⟨fun h => ?_, fun _ => ?_, nofun, fun h => absurd h nofun⟩,
    trivial⟩
  · decide +kernel
  · exact absurd h.2.1 nofun
  · exact absurd h.2.2.1 nofun
  · decide +kernel

/-- A response is accepted, another one comes before its follow-up. -/
def strayResponse : List PdelayInput :=
  [.pdelayResp atBoot (acceptedFrame 1), .pdelayResp atBoot (acceptedFrame 2),
    .pdelayRespFup atBoot (acceptedFrame 1)]

/-- **The stray response leaves timestamps of two exchanges.** -/
theorem exchanges_mixed :
    JustEntered 8 ⟨firstRequest, 1, []⟩ ∧
      ¬ Throughout (pdelayStep bigEndianHost 8) ExchangesSound ⟨firstRequest, 1, []⟩
        strayResponse := by
  refine ⟨⟨rfl, rfl, rfl⟩, fun h => ?_⟩
  have hmixed : (run (pdelayStep bigEndianHost 8) ⟨firstRequest, 1, []⟩ strayResponse).any
      (fun r => r.entered.any fun pp =>
        pp.mdPdelayReqState = .waitingForPdelayIntervalTimer &&
          pp.pdelayReqRxTimestamp.frame.number ≠ pp.pdelayRespRxTimestamp.frame.number) = true := by
    decide +kernel
  obtain ⟨r, hr, hentered⟩ := (Option.any_eq_true _ _).mp hmixed
  obtain ⟨pp, hpp, hboth⟩ := List.any_eq_true.mp hentered
  simp only [Bool.and_eq_true, decide_eq_true_eq] at hboth
  exact hboth.2 (congrArg (·.number) (h _ r List.prefix_rfl hr pp hpp hboth.1).1)

end Gptp
