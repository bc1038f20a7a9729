/-
The history of a port: the responses that it receives and the states that it enters.

The program keeps counts of what has happened (`pdelayResponses`, `multiplePdelayResponses`,
`lostResponses`).  Here all of it is kept in a list beside the port, so that the counts can be
compared with what they count.  A call of the machine is followed turn by turn (`PortRun.call`),
also where its loop does not stop, and a run may end in the middle of it.

* `EntryCounts` — what an entry action does to the counts; `mdPdelayReqSetState_counts` says so;
* `PortRun.call_eq` — a call that returns is one of `MDPdelayReq_StateMachine`;
* `portRun_kept` — what every happening keeps, every run keeps;
* `KeptByHappenings.atEntries` — and it is so for the port before each entry as well.
-/
import AvbSwitch.PdelayTermination
import AvbSwitch.PortIsolation

open Octets Runs

namespace Gptp

/-! ### Histories -/

/-- What happens on a port. -/
inductive Happening
  | response
  /-- an entry action, with the port before it and after it -/
  | entered (before after : PdelayPort)

/-- The system, the number of frames received so far, and what has happened, latest first. -/
structure PortRun where
  system : PdelaySystem
  received : ℕ
  history : List Happening
  /-- whether the last call of the machine has returned -/
  returned : Bool

/-- The loop of `MDPdelayReq_StateMachine`, for `k` turns at most. -/
def PortRun.turns (host : Host) (clock : Clock) (l : Locals) (p : UInt8) : ℕ → PortRun → PortRun
  | 0, r => { r with returned := false }
  | k + 1, r =>
    match mdPdelayReqTurn host clock l p r.system with
    | none => { r with returned := false }
    | some t =>
      if (r.system.ports p).mdPdelayReqState = (t.ports p).mdPdelayReqState then
        { r with system := t, returned := true }
      else
        turns host clock l p k
          { r with
            system := t
            history := .entered (r.system.ports p) (t.ports p) :: r.history }

/-- `MDPdelayReq_StateMachine`, as far as it comes in `k` turns of its loop. -/
def PortRun.call (k : ℕ) (host : Host) (clock : Clock) (p : UInt8) (r : PortRun) : PortRun :=
  if r.system.delayMechanism ≠ delayMechanismP2P then r
  else if !(r.system.ports p).portEnabled || !(r.system.ports p).pttPortEnabled then
    if (r.system.ports p).mdPdelayReqState ≠ .notEnabled then
      let t := mdPdelayReqSetState host clock r.system p .notEnabled
      { r with
        system := t
        history := .entered (r.system.ports p) (t.ports p) :: r.history }
    else r
  else r.turns host clock (Locals.of p (r.system.ports p)) p k

/-- What comes to a port. -/
inductive PortEvent
  | pdelayResp (clock : Clock) (m : Mem)
  | pdelayRespFup (clock : Clock) (m : Mem)
  | signaling (m : Mem)
  | tick (clock : Clock)
  | enable (portEnabled pttPortEnabled : Bool)
  /-- another port sends a request -/
  | otherPort (txTime : PtpTime)
  /-- a message of another kind, which may write any other variable of the announce machines -/
  | otherMessage (port : Port)

/-- A message of another kind does not enable the port, and does not make it `asCapable`. -/
def PdelayPort.withPort (pp : PdelayPort) (port : Port) : PdelayPort :=
  { pp with
    toPort :=
      { port with
        asCapable := pp.asCapable
        portEnabled := pp.portEnabled
        pttPortEnabled := pp.pttPortEnabled } }

/-- One event, with the number of turns that are taken if the machine is called. -/
def portStep (host : Host) (p : UInt8) (r : PortRun) (event : PortEvent × ℕ) : Option PortRun :=
  if r.returned then
    match event.1 with
    | .pdelayResp clock m =>
      some (PortRun.call event.2 host clock p
        { r with
          system := r.system.modify p (takePdelayResp host clock ⟨m, r.received⟩)
          received := r.received + 1
          history := .response :: r.history })
    | .pdelayRespFup clock m =>
      some (PortRun.call event.2 host clock p
        { r with
          system := r.system.modify p (takePdelayRespFup ⟨m, r.received⟩)
          received := r.received + 1 })
    | .signaling m => (processRxSignalingOn r.system p m).map fun t => { r with system := t }
    | .tick clock =>
      (linkDelaySyncIntervalSettingOn r.system p).map fun t =>
        PortRun.call event.2 host clock p
          { r with
            system := t.modify p fun pp =>
              { pp with pdelayIntervalTimer := pp.pdelayIntervalTimer + 1 } }
    | .enable portEnabled pttPortEnabled =>
      some { r with
        system := r.system.modify p fun pp =>
          { pp with portEnabled := portEnabled, pttPortEnabled := pttPortEnabled } }
    | .otherPort txTime =>
      some { r with
        system := r.system.modify p fun pp =>
          if p = 8 then { pp with pdelayReqTxTimestamp := txTime, rcvdMDTimestampReceive := true }
          else pp }
    | .otherMessage port =>
      some { r with system := r.system.modify p fun pp => pp.withPort port }
  else none

/-- `gptp_sw_init`, for a system whose variables have not been written before. -/
def PdelaySystem.swInit (mac : Vector UInt8 6) (rxPhyMacDelay : PtpTime)
    (initialLogSyncInterval nbrPropDelayThresh : UInt8 → UInt32) (ports : UInt8 → Port) :
    PdelaySystem where
  ports q := .swInit mac rxPhyMacDelay (initialLogSyncInterval q) (nbrPropDelayThresh q) q
    (.staticMemory (ports q))
  grandmasterIdentity := clockIdentityOf mac
  delayMechanism := delayMechanismP2P

/-- A run begins with nothing that has happened. -/
def PortRun.start (t : PdelaySystem) : PortRun := ⟨t, 0, [], true⟩

/-! ### The loop -/

variable {host : Host} {clock : Clock} {t t' : PdelaySystem} {p : UInt8} {pp pp' : PdelayPort}
  {s : MDPdelayReqState} {l : Locals} {k : ℕ} {r r' : PortRun} {h : List Happening}
  {entries : List PdelayPort} {event : PortEvent × ℕ} {events : List (PortEvent × ℕ)}

/-- The entry actions of a call, from the port before it and the ports after each of them. -/
def enteredFrom (h : List Happening) : PdelayPort → List PdelayPort → List Happening
  | _, [] => h
  | pp, pp' :: entries => enteredFrom (.entered pp pp' :: h) pp' entries

theorem PortRun.turns_eq
    (hturns : mdPdelayReqTurns host clock l p k r.system = some (t', entries)) :
    r.turns host clock l p k =
      { r with
        system := t'
        history := enteredFrom r.history (r.system.ports p) entries
        returned := true } := by
  induction k generalizing r entries with
  | zero => cases hturns
  | succ k ih =>
    obtain ⟨t, ht, hrest⟩ := Option.bind_eq_some_iff.mp hturns
    rw [turns, ht]
    dsimp only
    split_ifs at hrest ⊢ with hsame
    · obtain ⟨rfl, rfl⟩ := Prod.mk.inj (Option.some_inj.mp hrest)
      rfl
    · obtain ⟨⟨t₁, entries₁⟩, hlater, heq⟩ := Option.map_eq_some_iff.mp hrest
      obtain ⟨rfl, rfl⟩ := Prod.mk.inj heq
      rw [ih hlater]
      rfl

theorem PortRun.turns_of_none (hturns : mdPdelayReqTurns host clock l p k r.system = none) :
    (r.turns host clock l p k).returned = false := by
  induction k generalizing r with
  | zero => rfl
  | succ k ih =>
    rw [turns]
    rw [mdPdelayReqTurns] at hturns
    cases ht : mdPdelayReqTurn host clock l p r.system with
    | none => rfl
    | some t =>
      rw [ht, Option.bind_some] at hturns
      dsimp only
      split_ifs at hturns ⊢ with hsame
      exact ih (Option.map_eq_none_iff.mp hturns)

/-- **A call that returns** is one of the machine. -/
theorem PortRun.call_eq (hreturned : r.returned = true)
    (hmachine : mdPdelayReqStateMachine k host clock r.system p = some (t', entries)) :
    r.call k host clock p =
      { r with
        system := t'
        history := enteredFrom r.history (r.system.ports p) entries } := by
  rw [mdPdelayReqStateMachine] at hmachine
  rw [call]
  split_ifs at hmachine ⊢ with hp2p hdisabled hstate
  · obtain ⟨rfl, rfl⟩ := Prod.mk.inj (Option.some_inj.mp hmachine)
    rfl
  · obtain ⟨rfl, rfl⟩ := Prod.mk.inj (Option.some_inj.mp hmachine)
    rfl
  · obtain ⟨rfl, rfl⟩ := Prod.mk.inj (Option.some_inj.mp hmachine)
    rfl
  · rw [turns_eq hmachine, hreturned]

/-- A call that the machine does not return from in as many turns does not return. -/
theorem PortRun.call_of_none (hmachine : mdPdelayReqStateMachine k host clock r.system p = none) :
    (r.call k host clock p).returned = false := by
  rw [mdPdelayReqStateMachine] at hmachine
  rw [call]
  split_ifs at hmachine ⊢ with hp2p hdisabled hstate
  exact turns_of_none hmachine

/-! ### The counts -/

/-- The responses are counted from each request on. -/
def responsesAfter (responses : UInt32) : MDPdelayReqState → UInt32
  | .initialSendPdelayReq | .sendPdelayReq => 0
  | _ => responses

/-- One response to a request ends the count of the requests with more of them; none does not. -/
def multipleAfter (responses multiple : UInt32) : MDPdelayReqState → UInt32
  | .notEnabled | .initialSendPdelayReq => 0
  | .sendPdelayReq =>
    if responses = 1 then 0 else if 1 < responses then multiple + 1 else multiple
  | _ => multiple

/-- The third request with more than one response disables the port. -/
def enabledAfter (responses multiple : UInt32) (enabled : Bool) : MDPdelayReqState → Bool
  | .sendPdelayReq => if 1 < responses ∧ 3 ≤ multiple + 1 then false else enabled
  | _ => enabled

/-- The resets are counted from a completed exchange on, and not beyond the limit. -/
def lostAfter (lost allowed : UInt32) : MDPdelayReqState → UInt32
  | .initialSendPdelayReq | .waitingForPdelayIntervalTimer => 0
  | .reset => if lost ≤ allowed then lost + 1 else lost
  | _ => lost

/-- `asCapable` is not set but by a completed exchange, and a reset at the limit takes it back. -/
def KeepsCapable (lost allowed : UInt32) (capable capable' : Bool) : MDPdelayReqState → Prop
  | .waitingForPdelayIntervalTimer => True
  | .notEnabled | .initialSendPdelayReq => capable' = false
  | .reset => capable' = (capable && lost ≤ allowed)
  | _ => capable' = capable

/-- What an entry action does to the counts. -/
structure EntryCounts (s : MDPdelayReqState) (pp pp' : PdelayPort) : Prop where
  state : pp'.mdPdelayReqState = s
  enabled : s ≠ .notEnabled → s ≠ .initialSendPdelayReq → pp.mdPdelayReqState ≠ .notEnabled
  responses : pp'.pdelayResponses = responsesAfter pp.pdelayResponses s
  multiple : pp'.multiplePdelayResponses =
    multipleAfter pp.pdelayResponses pp.multiplePdelayResponses s
  portEnabled : pp'.portEnabled =
    enabledAfter pp.pdelayResponses pp.multiplePdelayResponses pp.portEnabled s
  lost : pp'.lostResponses = lostAfter pp.lostResponses pp.allowedLostResponses s
  allowed : pp'.allowedLostResponses = pp.allowedLostResponses
  capable : KeepsCapable pp.lostResponses pp.allowedLostResponses pp.asCapable pp'.asCapable s

/-- The counts, and what is said of them, are the same. -/
structure SameCounts (pp pp' : PdelayPort) : Prop where
  state : pp'.mdPdelayReqState = pp.mdPdelayReqState
  responses : pp'.pdelayResponses = pp.pdelayResponses
  multiple : pp'.multiplePdelayResponses = pp.multiplePdelayResponses
  lost : pp'.lostResponses = pp.lostResponses
  allowed : pp'.allowedLostResponses = pp.allowedLostResponses
  capable : pp'.asCapable = pp.asCapable

theorem SameCounts.refl : SameCounts pp pp := ⟨rfl, rfl, rfl, rfl, rfl, rfl⟩

theorem SameCounts.trans {pp'' : PdelayPort} (hpp : SameCounts pp pp')
    (hpp' : SameCounts pp' pp'') : SameCounts pp pp'' :=
  ⟨hpp'.state.trans hpp.state, hpp'.responses.trans hpp.responses,
    hpp'.multiple.trans hpp.multiple, hpp'.lost.trans hpp.lost, hpp'.allowed.trans hpp.allowed,
    hpp'.capable.trans hpp.capable⟩

/-- **What an entry action does to the counts of its port.** -/
theorem mdPdelayReqSetState_counts
    (henabled : s ≠ .notEnabled → s ≠ .initialSendPdelayReq →
      (t.ports p).mdPdelayReqState ≠ .notEnabled) :
    EntryCounts s (t.ports p) ((mdPdelayReqSetState host clock t p s).ports p) := by
  cases s with
  | notEnabled | waitingForPdelayResp | waitingForPdelayRespFollowUp =>
    simp only [mdPdelayReqSetState, PdelaySystem.modify_self]
    exact ⟨rfl, henabled, rfl, rfl, rfl, rfl, rfl, rfl⟩
  | reset =>
    simp only [mdPdelayReqSetState, PdelaySystem.modify_self]
    split
    case isTrue hlost =>
      refine ⟨rfl, henabled, rfl, rfl, rfl, (if_pos hlost).symm, rfl, ?_⟩
      rw [KeepsCapable, decide_eq_true hlost, Bool.and_true]
    case isFalse hlost =>
      refine ⟨rfl, henabled, rfl, rfl, rfl, (if_neg hlost).symm, rfl, ?_⟩
      rw [KeepsCapable, decide_eq_false hlost, Bool.and_false]
  | initialSendPdelayReq =>
    simp only [mdPdelayReqSetState, PdelaySystem.modify_self]
    obtain ⟨currTime, txTime, hsent⟩ := @transmitPdelayRequest_self host clock _ p
    rw [hsent]
    simp only [PdelaySystem.modify_self]
    exact ⟨rfl, henabled, rfl, rfl, rfl, rfl, rfl, rfl⟩
  | sendPdelayReq =>
    simp only [mdPdelayReqSetState, PdelaySystem.modify_self]
    obtain ⟨currTime, txTime, hsent⟩ := @transmitPdelayRequest_self host clock _ p
    rw [hsent]
    simp only [PdelaySystem.modify_self]
    -- one response, several with and without the third in a row, or none
    split_ifs with hone hmore hthird
    · refine ⟨rfl, henabled, rfl, (if_pos hone).symm, ?_, rfl, rfl, rfl⟩
      rw [enabledAfter, if_neg fun hboth => absurd hboth.1 (by rw [hone]; decide)]
    · exact ⟨rfl, henabled, rfl, ((if_neg hone).trans (if_pos hmore)).symm,
        (if_pos ⟨hmore, hthird⟩).symm, rfl, rfl, rfl⟩
    · exact ⟨rfl, henabled, rfl, ((if_neg hone).trans (if_pos hmore)).symm,
        (if_neg fun hboth => hthird hboth.2).symm, rfl, rfl, rfl⟩
    · exact ⟨rfl, henabled, rfl, ((if_neg hone).trans (if_neg hmore)).symm,
        (if_neg fun hboth => hmore hboth.1).symm, rfl, rfl, rfl⟩
  | waitingForPdelayIntervalTimer =>
    simp only [mdPdelayReqSetState, PdelaySystem.modify_self]
    obtain ⟨received, txI, rxI, ratio, valid, delay, hcomputed⟩ := computeDelays_frame
    rw [hcomputed]
    exact ⟨rfl, henabled, rfl, rfl, rfl, rfl, rfl, trivial⟩

/-! ### What the other events leave -/

theorem linkDelaySyncIntervalSettingSetState_sameCounts
    {st : LinkDelaySyncIntervalSettingState} :
    SameCounts pp (linkDelaySyncIntervalSettingSetState pp st) := by
  cases st <;> exact ⟨rfl, rfl, rfl, rfl, rfl, rfl⟩

theorem linkDelaySyncIntervalSettingStateMachine_sameCounts
    (h : linkDelaySyncIntervalSettingStateMachine pp = some pp') : SameCounts pp pp' :=
  linkDelaySyncIntervalSettingStateMachine_keeps (fun _ => .refl) .trans
    (fun _ _ => linkDelaySyncIntervalSettingSetState_sameCounts) h

/-! ### What is kept -/

/-- What is said of a port and its history is kept by all that happens. -/
structure KeptByHappenings (I : PdelayPort → List Happening → Prop) : Prop where
  same : ∀ {pp pp' h}, I pp h → SameCounts pp pp' → I pp' h
  response : ∀ {pp h}, I pp h →
    I { pp with pdelayResponses := pp.pdelayResponses + 1 } (.response :: h)
  entered : ∀ {s pp pp' h}, I pp h → EntryCounts s pp pp' → I pp' (.entered pp pp' :: h)

variable {I : PdelayPort → List Happening → Prop}

/-- One entry action of the loop. -/
theorem KeptByHappenings.turn (hkept : KeptByHappenings I) (hI : I (t.ports p) h)
    (hturn : mdPdelayReqTurn host clock l p t = some t')
    (hne : (t.ports p).mdPdelayReqState ≠ (t'.ports p).mdPdelayReqState) :
    I (t'.ports p) (.entered (t.ports p) (t'.ports p) :: h) := by
  obtain ⟨next, hnext, hnew⟩ := Option.map_eq_some_iff.mp hturn
  cases next with
  | none =>
    -- the state would be the same
    refine absurd ?_ hne
    rw [← hnew]
    dsimp only
    split
    · rw [PdelaySystem.modify_self]
    · rfl
  | some s =>
    rw [← hnew]
    refine hkept.entered hI (mdPdelayReqSetState_counts fun _ hs hstate => hs ?_)
    have htrans := mdPdelayReqNextState_eq_iff.mp hnext
    cases htrans with
    | enabled => rfl
    | repeated h | unanswered h | answered h | disturbed h | followedUp h | elapsed h =>
      exact absurd (hstate.symm.trans h) nofun
    | sent h | unsent h =>
      rcases h with h | h <;> exact absurd (hstate.symm.trans h) nofun

/-- The last turn changes the timer at most. -/
theorem KeptByHappenings.rest (hkept : KeptByHappenings I) (hI : I (t.ports p) h)
    (hturn : mdPdelayReqTurn host clock l p t = some t')
    (hsame : (t.ports p).mdPdelayReqState = (t'.ports p).mdPdelayReqState) : I (t'.ports p) h := by
  obtain ⟨next, hnext, hnew⟩ := Option.map_eq_some_iff.mp hturn
  cases next with
  | none =>
    rw [← hnew]
    dsimp only
    split
    · rw [PdelaySystem.modify_self]
      exact hkept.same hI ⟨rfl, rfl, rfl, rfl, rfl, rfl⟩
    · exact hI
  | some s =>
    rw [← hnew] at hsame
    refine absurd ?_ (mdPdelayReqNextState_eq_iff.mp hnext).ne.1
    exact mdPdelayReqSetState_entry.state.symm.trans hsame.symm

theorem KeptByHappenings.turns (hkept : KeptByHappenings I)
    (hI : I (r.system.ports p) r.history) :
    I ((r.turns host clock l p k).system.ports p) (r.turns host clock l p k).history := by
  induction k generalizing r with
  | zero => exact hI
  | succ k ih =>
    rw [PortRun.turns]
    cases ht : mdPdelayReqTurn host clock l p r.system with
    | none => exact hI
    | some t =>
      dsimp only
      split
      case isTrue hsame => exact hkept.rest hI ht hsame
      case isFalse hne => exact ih (hkept.turn hI ht hne)

theorem KeptByHappenings.call (hkept : KeptByHappenings I)
    (hI : I (r.system.ports p) r.history) :
    I ((r.call k host clock p).system.ports p) (r.call k host clock p).history := by
  rw [PortRun.call]
  split_ifs
  · exact hI
  · exact hkept.entered hI
      (@mdPdelayReqSetState_counts host clock _ _ .notEnabled fun hs => absurd rfl hs)
  · exact hI
  · exact hkept.turns hI

/-- **One event keeps** what all that happens keeps. -/
theorem portStep_kept (hkept : KeptByHappenings I) (hI : I (r.system.ports p) r.history)
    (hstep : portStep host p r event = some r') : I (r'.system.ports p) r'.history := by
  obtain ⟨event, k⟩ := event
  rw [portStep] at hstep
  split at hstep
  case isFalse => cases hstep
  case isTrue =>
    cases event with
    | pdelayResp clock m =>
      obtain rfl := Option.some_inj.mp hstep
      refine hkept.call ?_
      rw [PdelaySystem.modify_self]
      exact hkept.same (hkept.response hI) ⟨rfl, rfl, rfl, rfl, rfl, rfl⟩
    | pdelayRespFup clock m =>
      obtain rfl := Option.some_inj.mp hstep
      refine hkept.call ?_
      rw [PdelaySystem.modify_self]
      exact hkept.same hI ⟨rfl, rfl, rfl, rfl, rfl, rfl⟩
    | signaling m =>
      obtain ⟨t, ht, rfl⟩ := Option.map_eq_some_iff.mp hstep
      obtain ⟨pp, hpp, rfl⟩ := Option.map_eq_some_iff.mp ht
      rw [PdelaySystem.modify_self]
      have hstored : SameCounts (r.system.ports p)
          { r.system.ports p with rcvdSignalingPtr := m, rcvdSignalingMsg1 := true } :=
        ⟨rfl, rfl, rfl, rfl, rfl, rfl⟩
      exact hkept.same hI (hstored.trans (linkDelaySyncIntervalSettingStateMachine_sameCounts hpp))
    | tick clock =>
      obtain ⟨t, ht, rfl⟩ := Option.map_eq_some_iff.mp hstep
      obtain ⟨pp, hpp, rfl⟩ := Option.map_eq_some_iff.mp ht
      refine hkept.call ?_
      rw [PdelaySystem.modify_self, PdelaySystem.modify_self]
      have hlink := linkDelaySyncIntervalSettingStateMachine_sameCounts hpp
      exact hkept.same hI (hlink.trans ⟨rfl, rfl, rfl, rfl, rfl, rfl⟩)
    | enable portEnabled pttPortEnabled =>
      obtain rfl := Option.some_inj.mp hstep
      rw [PdelaySystem.modify_self]
      exact hkept.same hI ⟨rfl, rfl, rfl, rfl, rfl, rfl⟩
    | otherPort txTime =>
      obtain rfl := Option.some_inj.mp hstep
      rw [PdelaySystem.modify_self]
      refine hkept.same hI ?_
      split <;> exact ⟨rfl, rfl, rfl, rfl, rfl, rfl⟩
    | otherMessage port =>
      obtain rfl := Option.some_inj.mp hstep
      rw [PdelaySystem.modify_self]
      exact hkept.same hI ⟨rfl, rfl, rfl, rfl, rfl, rfl⟩

/-- **Every run keeps** what all that happens keeps. -/
theorem portRun_kept (hkept : KeptByHappenings I) (hI : I (r.system.ports p) r.history)
    (hrun : run (portStep host p) r events = some r') : I (r'.system.ports p) r'.history :=
  run_invariant (I := fun r => I (r.system.ports p) r.history) (portStep_kept hkept) hI hrun

/-- What is kept holds before each entry action of the history. -/
theorem KeptByHappenings.atEntries (hkept : KeptByHappenings I) :
    KeptByHappenings fun pp h => I pp h ∧ ∀ before after earlier,
      .entered before after :: earlier <:+ h →
        I before earlier ∧ EntryCounts after.mdPdelayReqState before after where
  same hI hsame := ⟨hkept.same hI.1 hsame, hI.2⟩
  response hI := by
    refine ⟨hkept.response hI.1, fun before after earlier hsuffix => ?_⟩
    rcases List.suffix_cons_iff.mp hsuffix with heq | hsuffix
    · cases heq
    · exact hI.2 before after earlier hsuffix
  entered hI hcounts := by
    refine ⟨hkept.entered hI.1 hcounts, fun before after earlier hsuffix => ?_⟩
    rcases List.suffix_cons_iff.mp hsuffix with heq | hsuffix
    · obtain ⟨hentered, rfl⟩ := List.cons.inj heq
      obtain ⟨rfl, rfl⟩ := Happening.entered.inj hentered
      exact ⟨hI.1, by rw [hcounts.state]; exact hcounts⟩
    · exact hI.2 before after earlier hsuffix

end Gptp
