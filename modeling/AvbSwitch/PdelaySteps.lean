/-
What the steps of MDPdelayReq do to their own port.

* `Entry` — everything that an entry action does to the port, as far as the transitions and
  the timestamps of an exchange depend on it; `mdPdelayReqSetState_entry` says so;
* `Transition` — the transitions with their guards; `mdPdelayReqNextState_eq_iff` says so;
* `mdPdelayReqTurns_entered` — what each entry action preserves, the loop preserves;
* `linkDelaySyncIntervalSettingStateMachine_keeps` — and so it is with the machine that sets the
  intervals of the port.
-/
import AvbSwitch.PdelayMachine

open Octets

namespace Gptp

variable {host : Host} {clock : Clock} {t t' : PdelaySystem} {p : UInt8} {pp pp' : PdelayPort}
  {s : MDPdelayReqState} {l : Locals} {fuel : ℕ} {entries : List PdelayPort}

/-! ### The computations -/

/-- The rate ratio is computed from the timestamps, and changes none of them. -/
theorem computePdelayRateRatio_frame :
    ∃ received txI rxI ratio valid, computePdelayRateRatio pp =
      { pp with
        initPdelayRespReceived := received
        pdelayRespTxTimestampI := txI
        pdelayRespRxTimestampI := rxI
        neighborRateRatio := ratio
        neighborRateRatioValid := valid } := by
  simp only [computePdelayRateRatio]
  split_ifs <;> exact ⟨_, _, _, _, _, rfl⟩

theorem computePropTime_frame :
    ∃ delay, computePropTime pp = { pp with neighborPropDelay := delay } := by
  simp only [computePropTime]
  split <;> exact ⟨_, rfl⟩

theorem computeDelays_frame :
    ∃ received txI rxI ratio valid delay, computeDelays pp =
      { pp with
        initPdelayRespReceived := received
        pdelayRespTxTimestampI := txI
        pdelayRespRxTimestampI := rxI
        neighborRateRatio := ratio
        neighborRateRatioValid := valid
        neighborPropDelay := delay } := by
  have hprop : ∀ {pp : PdelayPort}, ∃ delay,
      (if pp.computeNeighborPropDelay then computePropTime pp else pp) =
        { pp with neighborPropDelay := delay } := by
    intro pp
    split
    · exact computePropTime_frame
    · exact ⟨_, rfl⟩
  simp only [computeDelays]
  -- the propagation time is computed from what the rate ratio has left
  obtain ⟨delay, hdelay⟩ := hprop
  rw [hdelay]
  split
  · obtain ⟨received, txI, rxI, ratio, valid, hratio⟩ := @computePdelayRateRatio_frame pp
    rw [hratio]
    exact ⟨_, _, _, _, _, _, rfl⟩
  · exact ⟨_, _, _, _, _, _, rfl⟩

/-! ### The request -/

/-- `pdelayReq` is the request that `transmit_pdelay_request` builds from the identity and
the sequence number of the port. -/
def Outstanding (host : Host) (pp : PdelayPort) : Prop :=
  ∃ currTime, pp.pdelayReq = pdelayRequest host currTime pp

/-- Sending a request, as far as the sending port is concerned. -/
theorem transmitPdelayRequest_self :
    ∃ currTime txTime, (transmitPdelayRequest host clock t p).ports p =
      { t.ports p with
        pdelayReqSequenceId := (t.ports p).pdelayReqSequenceId + 1
        pdelayReq := pdelayRequest host currTime
          { t.ports p with pdelayReqSequenceId := (t.ports p).pdelayReqSequenceId + 1 }
        pdelayReqTxTimestamp := txTime
        rcvdMDTimestampReceive := p = 8 || (t.ports p).rcvdMDTimestampReceive } := by
  -- the timestamp goes to port 8, whichever port sends
  simp only [transmitPdelayRequest]
  by_cases hp : p = 8
  · subst hp
    simp only [PdelaySystem.modify_self]
    exact ⟨_, _, rfl⟩
  · simp only [PdelaySystem.modify_of_ne hp, PdelaySystem.modify_self, hp, decide_false,
      Bool.false_or]
    exact ⟨_, _, rfl⟩

/-! ### Entry actions -/

/-- The timer is restarted when a request is sent. -/
def timerAfter (timer : UInt32) : MDPdelayReqState → UInt32
  | .initialSendPdelayReq | .sendPdelayReq => 0
  | _ => timer

/-- `rcvdPdelayResp` is cleared when the response is taken, and on a fresh start. -/
def respAfter (resp : Bool) : MDPdelayReqState → Bool
  | .initialSendPdelayReq | .reset | .waitingForPdelayRespFollowUp => false
  | _ => resp

theorem respAfter_false : respAfter false s = false := by
  cases s <;> rfl

/-- `rcvdPdelayRespFollowUp` is cleared when the follow-up is taken, and on a fresh start. -/
def fupAfter (fup : Bool) : MDPdelayReqState → Bool
  | .initialSendPdelayReq | .reset | .waitingForPdelayIntervalTimer => false
  | _ => fup

/-- `rcvdMDTimestampReceive` is set where port 8 sends. -/
def timestampReceiveAfter (p : UInt8) (receive : Bool) : MDPdelayReqState → Bool
  | .initialSendPdelayReq => p = 8
  | .sendPdelayReq => p = 8 || receive
  | .waitingForPdelayResp => false
  | _ => receive

/-- The frame that Trsp2 is of. -/
def reqRxAfter (ptr frame : RxFrame) : MDPdelayReqState → RxFrame
  | .waitingForPdelayRespFollowUp => ptr
  | _ => frame

/-- The frame that Trsp3 is of. -/
def respTxAfter (ptr frame : RxFrame) : MDPdelayReqState → RxFrame
  | .waitingForPdelayIntervalTimer => ptr
  | _ => frame

/-- A request is built anew, or the last one and its number stay. -/
def RequestAfter (host : Host) (pp pp' : PdelayPort) : MDPdelayReqState → Prop
  | .initialSendPdelayReq | .sendPdelayReq => Outstanding host pp'
  | _ => pp'.pdelayReq = pp.pdelayReq ∧ pp'.pdelayReqSequenceId = pp.pdelayReqSequenceId

/-- What an entry action does to its port. -/
structure Entry (host : Host) (p : UInt8) (s : MDPdelayReqState) (pp pp' : PdelayPort) : Prop where
  state : pp'.mdPdelayReqState = s
  interval : pp'.currentLogPdelayReqInterval = pp.currentLogPdelayReqInterval
  macaddr : pp'.macaddr = pp.macaddr
  usPortNumber : pp'.usPortNumber = pp.usPortNumber
  respPtr : pp'.rcvdPdelayRespPtr = pp.rcvdPdelayRespPtr
  fupPtr : pp'.rcvdPdelayRespFollowUpPtr = pp.rcvdPdelayRespFollowUpPtr
  respRx : pp'.pdelayRespRxTimestamp = pp.pdelayRespRxTimestamp
  timer : pp'.pdelayIntervalTimer = timerAfter pp.pdelayIntervalTimer s
  resp : pp'.rcvdPdelayResp = respAfter pp.rcvdPdelayResp s
  fup : pp'.rcvdPdelayRespFollowUp = fupAfter pp.rcvdPdelayRespFollowUp s
  timestampReceive :
    pp'.rcvdMDTimestampReceive = timestampReceiveAfter p pp.rcvdMDTimestampReceive s
  reqRx : pp'.pdelayReqRxTimestamp.frame =
    reqRxAfter pp.rcvdPdelayRespPtr pp.pdelayReqRxTimestamp.frame s
  respTx : pp'.pdelayRespTxTimestamp.frame =
    respTxAfter pp.rcvdPdelayRespFollowUpPtr pp.pdelayRespTxTimestamp.frame s
  request : RequestAfter host pp pp' s

/-- **What an entry action does to its port.** -/
theorem mdPdelayReqSetState_entry :
    Entry host p s (t.ports p) ((mdPdelayReqSetState host clock t p s).ports p) := by
  cases s with
  | notEnabled | waitingForPdelayResp | waitingForPdelayRespFollowUp =>
    simp only [mdPdelayReqSetState, PdelaySystem.modify_self]
    exact ⟨rfl, rfl, rfl, rfl, rfl, rfl, rfl, rfl, rfl, rfl, rfl, rfl, rfl, rfl, rfl⟩
  | reset =>
    simp only [mdPdelayReqSetState, PdelaySystem.modify_self]
    split <;> exact ⟨rfl, rfl, rfl, rfl, rfl, rfl, rfl, rfl, rfl, rfl, rfl, rfl, rfl, rfl, rfl⟩
  | initialSendPdelayReq =>
    simp only [mdPdelayReqSetState, PdelaySystem.modify_self]
    obtain ⟨currTime, txTime, hsent⟩ := @transmitPdelayRequest_self host clock _ p
    rw [hsent]
    -- the flag was cleared before the request was sent
    simp only [PdelaySystem.modify_self, Bool.or_false]
    exact ⟨rfl, rfl, rfl, rfl, rfl, rfl, rfl, rfl, rfl, rfl, rfl, rfl, rfl, ⟨currTime, rfl⟩⟩
  | sendPdelayReq =>
    simp only [mdPdelayReqSetState, PdelaySystem.modify_self]
    obtain ⟨currTime, txTime, hsent⟩ := @transmitPdelayRequest_self host clock _ p
    rw [hsent]
    simp only [PdelaySystem.modify_self]
    -- the count of the responses, and with it the port, is no part of `Entry`
    split_ifs <;>
      exact ⟨rfl, rfl, rfl, rfl, rfl, rfl, rfl, rfl, rfl, rfl, rfl, rfl, rfl, ⟨currTime, rfl⟩⟩
  | waitingForPdelayIntervalTimer =>
    simp only [mdPdelayReqSetState, PdelaySystem.modify_self]
    obtain ⟨received, txI, rxI, ratio, valid, delay, hcomputed⟩ := computeDelays_frame
    rw [hcomputed]
    exact ⟨rfl, rfl, rfl, rfl, rfl, rfl, rfl, rfl, rfl, rfl, rfl, rfl, rfl, rfl, rfl⟩

/-! ### Transitions -/

/-- The transitions of the machine, with their guards. -/
inductive Transition (l : Locals) (pp : PdelayPort) : MDPdelayReqState → Prop
  | enabled (hstate : pp.mdPdelayReqState = .notEnabled) (hport : pp.portEnabled)
      (hptt : pp.pttPortEnabled) : Transition l pp .initialSendPdelayReq
  | repeated (hstate : pp.mdPdelayReqState = .reset) : Transition l pp .sendPdelayReq
  | sent (hstate : pp.mdPdelayReqState = .initialSendPdelayReq ∨
        pp.mdPdelayReqState = .sendPdelayReq)
      (hreceive : pp.rcvdMDTimestampReceive) : Transition l pp .waitingForPdelayResp
  | unsent (hstate : pp.mdPdelayReqState = .initialSendPdelayReq ∨
        pp.mdPdelayReqState = .sendPdelayReq)
      (hreceive : pp.rcvdMDTimestampReceive = false) (hexpired : pp.intervalExpired = some true) :
      Transition l pp .reset
  | unanswered {expired : Bool} (hstate : pp.mdPdelayReqState = .waitingForPdelayResp)
      (hexpired : pp.intervalExpired = some expired)
      (hresp : expired ∨ pp.rcvdPdelayResp ∧ (l.resp.samePort && l.resp.sameSequence) = false) :
      Transition l pp .reset
  | answered (hstate : pp.mdPdelayReqState = .waitingForPdelayResp)
      (hexpired : pp.intervalExpired = some false) (hresp : pp.rcvdPdelayResp)
      (hport : l.resp.samePort) (hsequence : l.resp.sameSequence) :
      Transition l pp .waitingForPdelayRespFollowUp
  | disturbed {expired : Bool} (hstate : pp.mdPdelayReqState = .waitingForPdelayRespFollowUp)
      (hexpired : pp.intervalExpired = some expired)
      (hresp : expired ∨ pp.rcvdPdelayResp ∧ l.resp.sameSequence) : Transition l pp .reset
  | followedUp (hstate : pp.mdPdelayReqState = .waitingForPdelayRespFollowUp)
      (hexpired : pp.intervalExpired = some false)
      (hresp : pp.rcvdPdelayResp → l.resp.sameSequence = false) (hfup : pp.rcvdPdelayRespFollowUp)
      (hport : l.fup.samePort) (hsequence : l.fup.sameSequence) :
      Transition l pp .waitingForPdelayIntervalTimer
  | elapsed (hstate : pp.mdPdelayReqState = .waitingForPdelayIntervalTimer)
      (hexpired : pp.intervalExpired = some true) : Transition l pp .sendPdelayReq

theorem mdPdelayReqNextState_eq_iff :
    mdPdelayReqNextState l pp = some (some s) ↔ Transition l pp s := by
  constructor
  · intro h
    rw [mdPdelayReqNextState] at h
    split at h
    case h_1 hstate =>
      simp only [Option.some_inj, Option.ite_none_right_eq_some, Bool.and_eq_true] at h
      exact h.2 ▸ .enabled hstate h.1.1 h.1.2
    case h_2 hstate =>
      simp only [Option.some_inj] at h
      exact h ▸ .repeated hstate
    case h_3 hstate | h_4 hstate =>
      split at h
      case isTrue hreceive =>
        simp only [Option.some_inj] at h
        exact h ▸ .sent (by simp only [hstate, true_or, or_true]) hreceive
      case isFalse hreceive =>
        obtain ⟨expired, hexpired, hs⟩ := Option.map_eq_some_iff.mp h
        obtain ⟨rfl, hs⟩ := Option.ite_none_right_eq_some.mp hs
        exact Option.some_inj.mp hs ▸ .unsent (by simp only [hstate, true_or, or_true])
          (Bool.eq_false_iff.mpr hreceive) hexpired
    case h_5 hstate =>
      obtain ⟨expired, hexpired, hs⟩ := Option.map_eq_some_iff.mp h
      split_ifs at hs with hreset hmatch
      · exact Option.some_inj.mp hs ▸ .unanswered hstate hexpired (by grind)
      · obtain ⟨⟨hresp, hsequence⟩, hport⟩ := by simpa only [Bool.and_eq_true] using hmatch
        obtain rfl : expired = false := by grind
        exact Option.some_inj.mp hs ▸ .answered hstate hexpired hresp hport hsequence
    case h_6 hstate =>
      obtain ⟨expired, hexpired, hs⟩ := Option.map_eq_some_iff.mp h
      split_ifs at hs with hreset hmatch
      · exact Option.some_inj.mp hs ▸ .disturbed hstate hexpired (by grind)
      · obtain ⟨⟨hfup, hsequence⟩, hport⟩ := by simpa only [Bool.and_eq_true] using hmatch
        obtain rfl : expired = false := by grind
        exact Option.some_inj.mp hs ▸ .followedUp hstate hexpired (by grind) hfup hport hsequence
    case h_7 hstate =>
      obtain ⟨expired, hexpired, hs⟩ := Option.map_eq_some_iff.mp h
      obtain ⟨rfl, hs⟩ := Option.ite_none_right_eq_some.mp hs
      exact Option.some_inj.mp hs ▸ .elapsed hstate hexpired
  · intro h
    cases h with
    | enabled hstate hport hptt =>
      simp only [mdPdelayReqNextState, hstate, hport, hptt]
      rfl
    | repeated hstate => simp only [mdPdelayReqNextState, hstate]
    | sent hstate hreceive =>
      rcases hstate with hstate | hstate <;>
        simp only [mdPdelayReqNextState, hstate, hreceive, if_true]
    | unsent hstate hreceive hexpired =>
      rcases hstate with hstate | hstate <;>
        simp [mdPdelayReqNextState, hstate, hreceive, hexpired]
    | unanswered hstate hexpired hresp => simp [mdPdelayReqNextState, hstate, hexpired]; grind
    | answered hstate hexpired hresp hport hsequence =>
      simp [mdPdelayReqNextState, hstate, hexpired, hresp, hport, hsequence]
    | disturbed hstate hexpired hresp => simp [mdPdelayReqNextState, hstate, hexpired, hresp]
    | followedUp hstate hexpired hresp hfup hport hsequence =>
      simp [mdPdelayReqNextState, hstate, hexpired, hfup, hport, hsequence]; grind
    | elapsed hstate hexpired => simp [mdPdelayReqNextState, hstate, hexpired]

/-- The machine goes to another state, and never back to the first one. -/
theorem Transition.ne (h : Transition l pp s) : s ≠ pp.mdPdelayReqState ∧ s ≠ .notEnabled := by
  cases h with
  | sent hstate | unsent hstate =>
    rcases hstate with hstate | hstate <;> exact ⟨hstate ▸ nofun, nofun⟩
  | enabled hstate | repeated hstate | unanswered hstate | answered hstate | disturbed hstate
  | followedUp hstate | elapsed hstate => exact ⟨hstate ▸ nofun, nofun⟩

theorem mdPdelayReqTurns_of_undefined (h : mdPdelayReqNextState l (t.ports p) = none) :
    mdPdelayReqTurns host clock l p fuel t = none := by
  cases fuel with
  | zero => rfl
  | succ fuel => rw [mdPdelayReqTurns, mdPdelayReqTurn, h, Option.map_none, Option.bind_none]

theorem mdPdelayReqTurns_of_rest (h : mdPdelayReqNextState l (t.ports p) = some none) :
    ∃ t', mdPdelayReqTurns host clock l p (fuel + 1) t = some (t', []) ∧
      (t'.ports p = t.ports p ∨ (t.ports p).mdPdelayReqState = .notEnabled ∧
        t'.ports p = { t.ports p with pdelayIntervalTimer := 0 }) := by
  rw [mdPdelayReqTurns, mdPdelayReqTurn, h, Option.map_some, Option.bind_some]
  by_cases hstate : (t.ports p).mdPdelayReqState = .notEnabled
  · rw [if_pos hstate, PdelaySystem.modify_self, if_pos rfl]
    exact ⟨_, rfl, Or.inr ⟨hstate, PdelaySystem.modify_self⟩⟩
  · rw [if_neg hstate, if_pos rfl]
    exact ⟨_, rfl, Or.inl rfl⟩

theorem mdPdelayReqTurns_of_next (h : mdPdelayReqNextState l (t.ports p) = some (some s)) :
    mdPdelayReqTurns host clock l p (fuel + 1) t =
      (mdPdelayReqTurns host clock l p fuel (mdPdelayReqSetState host clock t p s)).map fun r =>
        (r.1, (mdPdelayReqSetState host clock t p s).ports p :: r.2) := by
  have hne : (t.ports p).mdPdelayReqState ≠
      ((mdPdelayReqSetState host clock t p s).ports p).mdPdelayReqState := by
    rw [mdPdelayReqSetState_entry.state]
    -- a turn that enters the state it comes from would end the loop
    exact (mdPdelayReqNextState_eq_iff.mp h).ne.1.symm
  rw [mdPdelayReqTurns, mdPdelayReqTurn, h, Option.map_some, Option.bind_some, if_neg hne]

/-- Where the loop stops, the machine rests. -/
theorem mdPdelayReqTurns_rest : ∀ {fuel t t' entries},
    mdPdelayReqTurns host clock l p fuel t = some (t', entries) →
      mdPdelayReqNextState l (t'.ports p) = some none := by
  intro fuel
  induction fuel with
  | zero => intro t t' entries h; exact absurd h nofun
  | succ fuel ih =>
    intro t t' entries h
    match hnext : mdPdelayReqNextState l (t.ports p) with
    | none => exact absurd ((mdPdelayReqTurns_of_undefined hnext).symm.trans h) nofun
    | some none =>
      obtain ⟨t₁, ht₁, hports⟩ := @mdPdelayReqTurns_of_rest host clock t p l fuel hnext
      obtain ⟨rfl, -⟩ := Prod.mk.inj (Option.some_inj.mp (ht₁.symm.trans h))
      rcases hports with heq | ⟨hstate, heq⟩
      · rwa [heq]
      · -- the first state does not depend on the timer
        rw [heq, mdPdelayReqNextState]
        rw [mdPdelayReqNextState] at hnext
        simp only [hstate] at hnext ⊢
        exact hnext
    | some (some s) =>
      rw [mdPdelayReqTurns_of_next hnext] at h
      obtain ⟨⟨t₁, es⟩, hturns, heq⟩ := Option.map_eq_some_iff.mp h
      obtain ⟨rfl, -⟩ := Prod.mk.inj heq
      exact ih hturns

/-- **What each entry action preserves, the loop preserves**, and what each of them
establishes holds after all of them. -/
theorem mdPdelayReqTurns_entered {I E : PdelayPort → Prop}
    (hI : ∀ {pp pp' s}, I pp → Transition l pp s → Entry host p s pp pp' → I pp' ∧ E pp')
    (hrest : ∀ {pp}, I pp → pp.mdPdelayReqState = .notEnabled →
      I { pp with pdelayIntervalTimer := 0 }) :
    ∀ {fuel t t' entries}, I (t.ports p) →
      mdPdelayReqTurns host clock l p fuel t = some (t', entries) →
      I (t'.ports p) ∧ ∀ e ∈ entries, E e := by
  intro fuel
  induction fuel with
  | zero => intro t t' entries _ h; exact absurd h nofun
  | succ fuel ih =>
    intro t t' entries hp h
    match hnext : mdPdelayReqNextState l (t.ports p) with
    | none => exact absurd ((mdPdelayReqTurns_of_undefined hnext).symm.trans h) nofun
    | some none =>
      obtain ⟨t₁, ht₁, hports⟩ := @mdPdelayReqTurns_of_rest host clock t p l fuel hnext
      obtain ⟨rfl, rfl⟩ := Prod.mk.inj (Option.some_inj.mp (ht₁.symm.trans h))
      refine ⟨?_, List.forall_mem_nil _⟩
      rcases hports with heq | ⟨hstate, heq⟩
      · exact heq ▸ hp
      · exact heq ▸ hrest hp hstate
    | some (some s) =>
      rw [mdPdelayReqTurns_of_next hnext] at h
      obtain ⟨⟨t₁, es⟩, hturns, heq⟩ := Option.map_eq_some_iff.mp h
      obtain ⟨rfl, rfl⟩ := Prod.mk.inj heq
      -- one entry action, and then the rest of the loop from where it leaves the port
      obtain ⟨hkept, hentered⟩ : I ((mdPdelayReqSetState host clock t p s).ports p) ∧
          E ((mdPdelayReqSetState host clock t p s).ports p) :=
        hI hp (mdPdelayReqNextState_eq_iff.mp hnext) mdPdelayReqSetState_entry
      obtain ⟨hend, hall⟩ := ih hkept hturns
      exact ⟨hend, List.forall_mem_cons.mpr ⟨hentered, hall⟩⟩

/-! ### The machine that sets the intervals -/

section Keeps

variable {R : PdelayPort → PdelayPort → Prop}

theorem linkDelaySyncIntervalSettingTurn_keeps (hrefl : ∀ pp, R pp pp)
    (hset : ∀ pp s, R pp (linkDelaySyncIntervalSettingSetState pp s)) :
    R pp (linkDelaySyncIntervalSettingTurn pp) := by
  rw [linkDelaySyncIntervalSettingTurn]
  split <;> split <;> first | exact hset pp _ | exact hrefl pp

theorem linkDelaySyncIntervalSettingTurns_keeps (hrefl : ∀ pp, R pp pp)
    (htrans : ∀ {a b c}, R a b → R b c → R a c)
    (hset : ∀ pp s, R pp (linkDelaySyncIntervalSettingSetState pp s))
    (h : linkDelaySyncIntervalSettingTurns fuel pp = some pp') : R pp pp' := by
  induction fuel generalizing pp with
  | zero => cases h
  | succ fuel ih =>
    have hturn : R pp (linkDelaySyncIntervalSettingTurn pp) :=
      linkDelaySyncIntervalSettingTurn_keeps hrefl hset
    simp only [linkDelaySyncIntervalSettingTurns] at h
    split at h
    · exact Option.some_inj.mp h ▸ hturn
    · exact htrans hturn (ih h)

/-- What each entry action keeps, the machine keeps. -/
theorem linkDelaySyncIntervalSettingStateMachine_keeps (hrefl : ∀ pp, R pp pp)
    (htrans : ∀ {a b c}, R a b → R b c → R a c)
    (hset : ∀ pp s, R pp (linkDelaySyncIntervalSettingSetState pp s))
    (h : linkDelaySyncIntervalSettingStateMachine pp = some pp') : R pp pp' := by
  rw [linkDelaySyncIntervalSettingStateMachine] at h
  split at h
  · split at h
    · exact Option.some_inj.mp h ▸ hset pp _
    · exact Option.some_inj.mp h ▸ hrefl pp
  · exact linkDelaySyncIntervalSettingTurns_keeps hrefl htrans hset h

end Keeps

end Gptp
