/-
Which ports the operations of a port write.

Each operation of the announce machines, of LinkDelaySyncIntervalSetting and of MDPdelayReq is
called for one port.  What MDPdelayReq writes is followed entry action by entry action
(`EntersFrom`), since its loop need not stop.

* `mdPdelayReqSetState_ports_of_ne` — an entry action writes another port only if it sends a
  request, and then port 8;
* `sendsRequest_iff` — whether a request is sent can be read off the port as it is found;
* `isolated_iff` — an operation writes its own port only, and a request that is sent is recorded
  there, exactly if no request is sent, or on port 8.
-/
import AvbSwitch.PdelayTermination

open Octets

namespace Gptp

variable {n : ℕ} {host : Host} {clock : Clock} {t u w : PdelaySystem} {p q : UInt8}
  {pp pp' : PdelayPort} {s s' : MDPdelayReqState} {l : Locals} {fuel : ℕ}
  {entries : List PdelayPort}

/-! ### Entry actions -/

/-- The entry action sends a request. -/
def Sends (s : MDPdelayReqState) : Prop := s = .initialSendPdelayReq ∨ s = .sendPdelayReq

instance : DecidablePred Sends := fun _ => inferInstanceAs (Decidable (_ ∨ _))

theorem transmitPdelayRequest_ports_of_ne (hq : q ≠ p) (h8 : q ≠ 8) :
    (transmitPdelayRequest host clock t p).ports q = t.ports q := by
  rw [transmitPdelayRequest]
  dsimp only
  rw [PdelaySystem.modify_of_ne h8, PdelaySystem.modify_of_ne hq, PdelaySystem.modify_of_ne hq]

/-- **Another port is written only with a request**, and then it is port 8. -/
theorem mdPdelayReqSetState_ports_of_ne (hq : q ≠ p) (h8 : Sends s → q ≠ 8) :
    (mdPdelayReqSetState host clock t p s).ports q = t.ports q := by
  cases s with
  | initialSendPdelayReq =>
    simp only [mdPdelayReqSetState, PdelaySystem.modify_of_ne hq,
      transmitPdelayRequest_ports_of_ne hq (h8 (Or.inl rfl))]
  | sendPdelayReq =>
    simp only [mdPdelayReqSetState, PdelaySystem.modify_of_ne hq,
      transmitPdelayRequest_ports_of_ne hq (h8 (Or.inr rfl))]
  | _ => simp only [mdPdelayReqSetState, PdelaySystem.modify_of_ne hq]

/-- When a request is sent the time is written that is two nanoseconds after the clock was
read. -/
def requestTxTime (host : Host) (clock : Clock) : PtpTime :=
  let currTime := getRtcTime host.bigEndian clock.timeSinceBoot clock.leftover
  { currTime with nanoseconds := currTime.nanoseconds + 1 + 1 }

/-- The port has what is needed to wait for a response to a request that was sent just now. -/
def Recorded (host : Host) (clock : Clock) (pp : PdelayPort) : Prop :=
  pp.pdelayReqTxTimestamp = requestTxTime host clock ∧ pp.rcvdMDTimestampReceive

theorem transmitPdelayRequest_recorded :
    ((transmitPdelayRequest host clock t p).ports 8).pdelayReqTxTimestamp =
        requestTxTime host clock ∧
      ((transmitPdelayRequest host clock t p).ports 8).rcvdMDTimestampReceive = true := by
  rw [transmitPdelayRequest]
  dsimp only
  rw [PdelaySystem.modify_self]
  exact ⟨rfl, rfl⟩

/-- A request is recorded on port 8, whichever port sends. -/
theorem mdPdelayReqSetState_recorded (hs : Sends s) :
    Recorded host clock ((mdPdelayReqSetState host clock t p s).ports 8) := by
  by_cases hp : (8 : UInt8) = p
  · subst hp
    -- what is written after the request leaves both variables alone
    rcases hs with rfl | rfl <;> rw [Recorded] <;>
      simp only [mdPdelayReqSetState, PdelaySystem.modify_self]
    · exact transmitPdelayRequest_recorded
    · split_ifs <;> dsimp only <;> exact transmitPdelayRequest_recorded
  · rcases hs with rfl | rfl <;> rw [Recorded] <;>
      simp only [mdPdelayReqSetState, PdelaySystem.modify_of_ne hp] <;>
      exact transmitPdelayRequest_recorded

/-! ### The run of MDPdelayReq -/

/-- The machine goes into its loop. -/
def Looping (t : PdelaySystem) (p : UInt8) : Prop :=
  t.delayMechanism = delayMechanismP2P ∧ (t.ports p).portEnabled ∧ (t.ports p).pttPortEnabled

/-- The machine, started on `t`, comes to enter state `s` in the system `u`. -/
inductive EntersFrom (host : Host) (clock : Clock) (p : UInt8) (t : PdelaySystem) :
    PdelaySystem → MDPdelayReqState → Prop
  | disabled (hp2p : t.delayMechanism = delayMechanismP2P)
      (hport : ((t.ports p).portEnabled && (t.ports p).pttPortEnabled) = false) :
      EntersFrom host clock p t t .notEnabled
  | first {s : MDPdelayReqState} (hloop : Looping t p)
      (hnext : mdPdelayReqNextState (.of p (t.ports p)) (t.ports p) = some (some s)) :
      EntersFrom host clock p t t s
  | next {u : PdelaySystem} {s s' : MDPdelayReqState} (hloop : Looping t p)
      (h : EntersFrom host clock p t u s)
      (hnext : mdPdelayReqNextState (.of p (t.ports p))
        ((mdPdelayReqSetState host clock u p s).ports p) = some (some s')) :
      EntersFrom host clock p t (mdPdelayReqSetState host clock u p s) s'

/-- Where the loop stops, the system is as it was at the start or as an entry action left it, but
for the timer. -/
theorem mdPdelayReqTurns_enters (hloop : Looping t p)
    (hu : u = t ∨ ∃ w s, EntersFrom host clock p t w s ∧ u = mdPdelayReqSetState host clock w p s)
    (h : mdPdelayReqTurns host clock (.of p (t.ports p)) p fuel u = some (w, entries)) :
    ∃ u', (u' = t ∨ ∃ w s, EntersFrom host clock p t w s ∧ u' = mdPdelayReqSetState host clock w p s) ∧
      (w = u' ∨ w = u'.modify p fun pp => { pp with pdelayIntervalTimer := 0 }) := by
  induction fuel generalizing u w entries with
  | zero => cases h
  | succ fuel ih =>
    match hnext : mdPdelayReqNextState (.of p (t.ports p)) (u.ports p) with
    | none =>
      rw [mdPdelayReqTurns_of_undefined hnext] at h
      cases h
    | some none =>
      refine ⟨u, hu, ?_⟩
      rw [mdPdelayReqTurns, mdPdelayReqTurn, hnext, Option.map_some, Option.bind_some] at h
      by_cases hstate : (u.ports p).mdPdelayReqState = .notEnabled
      · rw [if_pos hstate, PdelaySystem.modify_self, if_pos rfl] at h
        exact Or.inr (Prod.mk.inj (Option.some_inj.mp h)).1.symm
      · rw [if_neg hstate, if_pos rfl] at h
        exact Or.inl (Prod.mk.inj (Option.some_inj.mp h)).1.symm
    | some (some s) =>
      rw [mdPdelayReqTurns_of_next hnext] at h
      obtain ⟨⟨w', es⟩, hturns, heq⟩ := Option.map_eq_some_iff.mp h
      obtain ⟨rfl, -⟩ := Prod.mk.inj heq
      refine ih (Or.inr ⟨u, s, ?_, rfl⟩) hturns
      rcases hu with rfl | ⟨v, s', henters, rfl⟩
      · exact .first hloop hnext
      · exact .next hloop henters hnext

/-- What the machine leaves is what one of its entry actions leaves, or nothing has happened, but
for the timer. -/
theorem mdPdelayReqStateMachine_enters
    (h : mdPdelayReqStateMachine fuel host clock t p = some (w, entries)) :
    ∃ u, (u = t ∨ ∃ w s, EntersFrom host clock p t w s ∧ u = mdPdelayReqSetState host clock w p s) ∧
      (w = u ∨ w = u.modify p fun pp => { pp with pdelayIntervalTimer := 0 }) := by
  by_cases hp2p : t.delayMechanism = delayMechanismP2P
  · cases hport : (t.ports p).portEnabled && (t.ports p).pttPortEnabled
    · rw [mdPdelayReqStateMachine, if_neg (not_not.mpr hp2p), ← Bool.not_and, hport,
        Bool.not_false, if_pos rfl] at h
      split at h
      · obtain ⟨rfl, -⟩ := Prod.mk.inj (Option.some_inj.mp h)
        exact ⟨_, Or.inr ⟨t, .notEnabled, .disabled hp2p hport, rfl⟩, Or.inl rfl⟩
      · obtain ⟨rfl, -⟩ := Prod.mk.inj (Option.some_inj.mp h)
        exact ⟨t, Or.inl rfl, Or.inl rfl⟩
    · rw [mdPdelayReqStateMachine_of_enabled hp2p hport] at h
      exact mdPdelayReqTurns_enters ⟨hp2p, Bool.and_eq_true_iff.mp hport⟩ (Or.inl rfl) h
  · rw [mdPdelayReqStateMachine, if_pos hp2p] at h
    obtain ⟨rfl, -⟩ := Prod.mk.inj (Option.some_inj.mp h)
    exact ⟨t, Or.inl rfl, Or.inl rfl⟩

/-! ### Which requests are sent -/

/-- A response is pending that is none to the last request. -/
def Mismatched (l : Locals) (pp : PdelayPort) : Prop :=
  pp.rcvdPdelayResp ∧ (l.resp.samePort && l.resp.sameSequence) = false

/-- The loop, coming to a port that is enabled, sends a request on it. -/
def Requests (l : Locals) (pp : PdelayPort) : Prop :=
  match pp.mdPdelayReqState with
  | .notEnabled | .reset => True
  | .initialSendPdelayReq | .sendPdelayReq =>
    pp.intervalExpired = some true ∨
      pp.intervalExpired = some false ∧ pp.rcvdMDTimestampReceive ∧ Mismatched l pp
  | .waitingForPdelayResp =>
    pp.intervalExpired = some true ∨ pp.intervalExpired = some false ∧ Mismatched l pp
  | .waitingForPdelayRespFollowUp =>
    pp.intervalExpired = some true ∨
      pp.intervalExpired = some false ∧ pp.rcvdPdelayResp ∧ l.resp.sameSequence
  | .waitingForPdelayIntervalTimer => pp.intervalExpired = some true

/-- How many entry actions there are before a request, at most. -/
def beforeRequest : MDPdelayReqState → ℕ
  | .initialSendPdelayReq | .sendPdelayReq => 4
  | .waitingForPdelayResp => 3
  | .waitingForPdelayRespFollowUp => 2
  | .reset => 1
  | .notEnabled | .waitingForPdelayIntervalTimer => 0

/-- A transition that sends nothing changes nothing about whether a request is sent. -/
theorem requests_step (h : Transition l pp s) (hentry : Entry host p s pp pp') :
    (Requests l pp ↔ Sends s ∨ Requests l pp') ∧
      (Sends s ∨ beforeRequest s < beforeRequest pp.mdPdelayReqState) := by
  have hstate' := hentry.state
  have hresp := hentry.resp
  have hexpired' : ¬ Sends s → pp'.intervalExpired = pp.intervalExpired := fun hs => by
    refine hentry.intervalExpired (hentry.timer.trans ?_)
    cases s <;> first | rfl | exact absurd (Or.inl rfl) hs | exact absurd (Or.inr rfl) hs
  cases h with
  | @unanswered expired hstate hexpired hresp =>
    cases expired <;> simp only [Requests, Sends, Mismatched, hstate'] at hexpired' ⊢ <;>
      grind [beforeRequest]
  | @disturbed expired hstate hexpired hresp =>
    cases expired <;> simp only [Requests, Sends, hstate'] at hexpired' ⊢ <;>
      grind [beforeRequest]
  | _ =>
    simp only [Requests, Sends, Mismatched, hstate'] at hexpired' ⊢
    grind [beforeRequest, respAfter]

/-- A port on which a request is to be sent has a transition. -/
theorem Requests.transition (h : Requests l pp)
    (hport : pp.mdPdelayReqState = .notEnabled → pp.portEnabled ∧ pp.pttPortEnabled) :
    ∃ s, Transition l pp s := by
  rw [Requests] at h
  split at h
  case h_1 hstate => exact ⟨_, .enabled hstate (hport hstate).1 (hport hstate).2⟩
  case h_2 hstate => exact ⟨_, .repeated hstate⟩
  case h_3 hstate | h_4 hstate =>
    cases hreceive : pp.rcvdMDTimestampReceive
    · refine ⟨_, .unsent (by simp only [hstate, true_or, or_true]) hreceive ?_⟩
      exact h.resolve_right fun hmismatched => Bool.false_ne_true (hreceive.symm.trans hmismatched.2.1)
    · exact ⟨_, .sent (by simp only [hstate, true_or, or_true]) hreceive⟩
  case h_5 hstate =>
    rcases h with hexpired | ⟨hexpired, hmismatched⟩
    · exact ⟨_, .unanswered hstate hexpired (Or.inl rfl)⟩
    · exact ⟨_, .unanswered hstate hexpired (Or.inr hmismatched)⟩
  case h_6 hstate =>
    rcases h with hexpired | ⟨hexpired, hresp⟩
    · exact ⟨_, .disturbed hstate hexpired (Or.inl rfl)⟩
    · exact ⟨_, .disturbed hstate hexpired (Or.inr hresp)⟩
  case h_7 hstate => exact ⟨_, .elapsed hstate h⟩

/-- The machine, started on `t`, sends a request on port `p`. -/
def SendsRequest (t : PdelaySystem) (p : UInt8) : Prop :=
  Looping t p ∧ Requests (.of p (t.ports p)) (t.ports p)

/-- What was still to be sent after an entry action was to be sent from the start. -/
theorem requests_of_enters (hloop : Looping t p) (h : EntersFrom host clock p t w s)
    (hs : Sends s ∨
      Requests (.of p (t.ports p)) ((mdPdelayReqSetState host clock w p s).ports p)) :
    Requests (.of p (t.ports p)) (t.ports p) := by
  induction h with
  | disabled _ hport =>
    rw [hloop.2.1, hloop.2.2] at hport
    cases hport
  | @first s _ hnext =>
    have hentry : Entry host p s (t.ports p) ((mdPdelayReqSetState host clock t p s).ports p) :=
      mdPdelayReqSetState_entry
    exact (requests_step (mdPdelayReqNextState_eq_iff.mp hnext) hentry).1.mpr hs
  | next _ _ hnext ih =>
    exact ih (Or.inr ((requests_step (mdPdelayReqNextState_eq_iff.mp hnext)
      mdPdelayReqSetState_entry).1.mpr hs))

/-- If a request is to be sent from here on, the machine comes to send it. -/
theorem enters_of_requests (hloop : Looping t p)
    (hu : u = t ∨ ∃ w s, EntersFrom host clock p t w s ∧ u = mdPdelayReqSetState host clock w p s)
    (hrequests : Requests (.of p (t.ports p)) (u.ports p))
    (hport : (u.ports p).mdPdelayReqState = .notEnabled →
      (u.ports p).portEnabled ∧ (u.ports p).pttPortEnabled) :
    ∃ w s, EntersFrom host clock p t w s ∧ Sends s := by
  -- by induction on the entry actions before the request
  induction hk : beforeRequest (u.ports p).mdPdelayReqState using Nat.strong_induction_on
    generalizing u with
  | _ k ih =>
    obtain ⟨s, htransition⟩ := hrequests.transition hport
    have hnext := mdPdelayReqNextState_eq_iff.mpr htransition
    have henters : EntersFrom host clock p t u s := by
      rcases hu with rfl | ⟨w, s', henters, rfl⟩
      · exact .first hloop hnext
      · exact .next hloop henters hnext
    have hentry : Entry host p s (u.ports p) ((mdPdelayReqSetState host clock u p s).ports p) :=
      mdPdelayReqSetState_entry
    obtain ⟨hsame, hfewer⟩ := requests_step htransition hentry
    rcases hfewer with hs | hfewer
    · exact ⟨u, s, henters, hs⟩
    rcases hsame.mp hrequests with hs | hrequests'
    · exact ⟨u, s, henters, hs⟩
    have hlt : beforeRequest ((mdPdelayReqSetState host clock u p s).ports p).mdPdelayReqState < k := by
      rw [hentry.state, ← hk]
      exact hfewer
    refine ih _ hlt (Or.inr ⟨u, s, henters, rfl⟩) hrequests' ?_ rfl
    -- the machine does not come back to its first state
    intro hstate
    exact absurd (hentry.state.symm.trans hstate) htransition.ne.2

/-- **The machine comes to send a request exactly if the port says so at the start.** -/
theorem sendsRequest_iff :
    SendsRequest t p ↔ ∃ w s, EntersFrom host clock p t w s ∧ Sends s := by
  constructor
  · rintro ⟨hloop, hrequests⟩
    exact enters_of_requests hloop (Or.inl rfl) hrequests (fun _ => hloop.2)
  · rintro ⟨w, s, henters, hs⟩
    have hloop : Looping t p := by
      cases henters with
      | disabled => rcases hs with hs | hs <;> cases hs
      | first hloop => exact hloop
      | next hloop => exact hloop
    exact ⟨hloop, requests_of_enters hloop henters (Or.inl hs)⟩

/-! ### MDPdelayReq -/

/-- MDPdelayReq, started on port `p` after `write` has changed it, writes no other port, whatever
the other ports hold, and records each request that it sends. -/
structure MachineIsolated (host : Host) (clock : Clock) (write : PdelayPort → PdelayPort)
    (t : PdelaySystem) (p : UInt8) : Prop where
  others : ∀ u : PdelaySystem, u.ports p = t.ports p → u.grandmasterIdentity = t.grandmasterIdentity →
    u.delayMechanism = t.delayMechanism → ∀ w s, EntersFrom host clock p (u.modify p write) w s →
      ∀ q, q ≠ p → (mdPdelayReqSetState host clock w p s).ports q = u.ports q
  request : ∀ w s, EntersFrom host clock p (t.modify p write) w s → Sends s →
    Recorded host clock ((mdPdelayReqSetState host clock w p s).ports p)

/-- A request on port 8, or none, leaves the other ports alone. -/
theorem enters_ports_of_ne (h8 : p = 8 ∨ ¬ SendsRequest t p) (henters : EntersFrom host clock p t w s)
    (hq : q ≠ p) : (mdPdelayReqSetState host clock w p s).ports q = t.ports q := by
  have hwrites : ∀ {w s}, EntersFrom host clock p t w s → Sends s → q ≠ 8 := by
    intro w s henters hs
    rcases h8 with rfl | hnone
    · exact hq
    · exact absurd (sendsRequest_iff.mpr ⟨w, s, henters, hs⟩) hnone
  induction henters with
  | disabled hp2p hport =>
    exact mdPdelayReqSetState_ports_of_ne hq (hwrites (.disabled hp2p hport))
  | first hloop hnext => exact mdPdelayReqSetState_ports_of_ne hq (hwrites (.first hloop hnext))
  | next hloop h hnext ih =>
    exact (mdPdelayReqSetState_ports_of_ne hq (hwrites (.next hloop h hnext))).trans ih

/-- Whether a request is sent does not depend on the other ports. -/
theorem sendsRequest_congr (hports : u.ports p = t.ports p)
    (hdelay : u.delayMechanism = t.delayMechanism) : SendsRequest u p ↔ SendsRequest t p := by
  rw [SendsRequest, SendsRequest, Looping, Looping, hports, hdelay]

theorem machineIsolated_iff {write : PdelayPort → PdelayPort} :
    MachineIsolated host clock write t p ↔ p = 8 ∨ ¬ SendsRequest (t.modify p write) p := by
  constructor
  · intro h
    by_contra hboth
    obtain ⟨h8, hsends⟩ := not_or.mp hboth
    have hp : (8 : UInt8) ≠ p := fun heq => h8 heq.symm
    -- port 8 is told of the request, even if it has not been before
    have hself : ((t.modify 8 fun pp => { pp with rcvdMDTimestampReceive := false }).modify p
        write).ports p = (t.modify p write).ports p := by
      rw [PdelaySystem.modify_self, PdelaySystem.modify_self, PdelaySystem.modify_of_ne hp.symm]
    obtain ⟨w, s, henters, hs⟩ :=
      sendsRequest_iff.mp ((sendsRequest_congr hself rfl).mpr (not_not.mp hsends))
    have hkept := h.others _ (PdelaySystem.modify_of_ne hp.symm) rfl rfl w s henters 8 hp
    have hrecorded : Recorded host clock ((mdPdelayReqSetState host clock w p s).ports 8) :=
      mdPdelayReqSetState_recorded hs
    rw [hkept, PdelaySystem.modify_self] at hrecorded
    have hrecorded := hrecorded.2
    cases hrecorded
  · intro h8
    refine ⟨fun u hports hgm hdelay w s henters q hq => ?_, fun w s henters hs => ?_⟩
    · have hself : (u.modify p write).ports p = (t.modify p write).ports p := by
        rw [PdelaySystem.modify_self, PdelaySystem.modify_self, hports]
      have h8' : p = 8 ∨ ¬ SendsRequest (u.modify p write) p :=
        h8.imp_right fun hnone => mt (sendsRequest_congr hself hdelay).mp hnone
      rw [enters_ports_of_ne h8' henters hq, PdelaySystem.modify_of_ne hq]
    · rcases h8 with rfl | hnone
      · exact mdPdelayReqSetState_recorded hs
      · exact absurd (sendsRequest_iff.mpr ⟨w, s, henters, hs⟩) hnone

/-! ### The operations -/

/-- `LinkDelaySyncIntervalSetting_StateMachine` on port `p`. -/
def linkDelaySyncIntervalSettingOn (t : PdelaySystem) (p : UInt8) : Option PdelaySystem :=
  (linkDelaySyncIntervalSettingStateMachine (t.ports p)).map fun pp => t.modify p fun _ => pp

/-- `process_rx_signaling` on port `p`. -/
def processRxSignalingOn (t : PdelaySystem) (p : UInt8) (rxBuffer : Mem) : Option PdelaySystem :=
  (processRxSignaling rxBuffer (t.ports p)).map fun pp => t.modify p fun _ => pp

/-- The operations of a port, in the state in which they are called. -/
inductive PortOperation (n : ℕ)
  | portAnnounceInformation (t : Gptpm n) (p : Fin n)
  | processRxAnnounce (bigEndian : Bool) (t : Gptpm n) (p : Fin n) (rxBuffer : Mem)
  | linkDelaySyncIntervalSetting (t : PdelaySystem) (p : UInt8)
  | processRxSignaling (t : PdelaySystem) (p : UInt8) (rxBuffer : Mem)
  | mdPdelayReq (host : Host) (clock : Clock) (t : PdelaySystem) (p : UInt8)
  | processRxPdelayResp (host : Host) (clock : Clock) (t : PdelaySystem) (p : UInt8)
      (rxBuffer : RxFrame)
  | processRxPdelayRespFup (host : Host) (clock : Clock) (t : PdelaySystem) (p : UInt8)
      (rxBuffer : RxFrame)

/-- The operation writes its own port only, and a request that it sends is recorded there. -/
def PortOperation.Isolated : PortOperation n → Prop
  | .portAnnounceInformation t p =>
    ∀ t', Gptp.portAnnounceInformation t p = some t' → ∀ q, q ≠ p → t'.ports q = t.ports q
  | .processRxAnnounce bigEndian t p rxBuffer =>
    ∀ t', Gptp.processRxAnnounce bigEndian t p rxBuffer = some t' →
      ∀ q, q ≠ p → t'.ports q = t.ports q
  | .linkDelaySyncIntervalSetting t p =>
    ∀ t', linkDelaySyncIntervalSettingOn t p = some t' → ∀ q, q ≠ p → t'.ports q = t.ports q
  | .processRxSignaling t p rxBuffer =>
    ∀ t', processRxSignalingOn t p rxBuffer = some t' → ∀ q, q ≠ p → t'.ports q = t.ports q
  | .mdPdelayReq host clock t p => MachineIsolated host clock (fun pp => pp) t p
  | .processRxPdelayResp host clock t p rxBuffer =>
    MachineIsolated host clock (takePdelayResp host clock rxBuffer) t p
  | .processRxPdelayRespFup host clock t p rxBuffer =>
    MachineIsolated host clock (takePdelayRespFup rxBuffer) t p

/-- The operation sends a request, and not on port 8. -/
def PortOperation.SendsElsewhere : PortOperation n → Prop
  | .mdPdelayReq _ _ t p => p ≠ 8 ∧ SendsRequest t p
  | .processRxPdelayResp host clock t p rxBuffer =>
    p ≠ 8 ∧ SendsRequest (t.modify p (takePdelayResp host clock rxBuffer)) p
  | .processRxPdelayRespFup _ _ t p rxBuffer =>
    p ≠ 8 ∧ SendsRequest (t.modify p (takePdelayRespFup rxBuffer)) p
  | _ => False

/-- **An operation of a port writes no other port**, exactly if it does not send a request, or
sends it on port 8. -/
theorem isolated_iff (op : PortOperation n) : op.Isolated ↔ ¬ op.SendsElsewhere := by
  have hmachine : ∀ {host clock write t p}, MachineIsolated host clock write t p ↔
      ¬(p ≠ 8 ∧ SendsRequest (t.modify p write) p) := by
    intro host clock write t p
    rw [machineIsolated_iff, not_and_or, not_not]
  cases op with
  | portAnnounceInformation t p =>
    refine iff_of_true (fun t' h q hq => ?_) not_false
    obtain ⟨pp, -, rfl⟩ := Option.map_eq_some_iff.mp h
    exact Gptpm.setPort_ports_of_ne hq
  | processRxAnnounce bigEndian t p m =>
    exact iff_of_true (fun t' h => (processRxAnnounce_eq h).2.1) not_false
  | linkDelaySyncIntervalSetting t p =>
    refine iff_of_true (fun t' h q hq => ?_) not_false
    obtain ⟨pp, -, rfl⟩ := Option.map_eq_some_iff.mp h
    exact PdelaySystem.modify_of_ne hq
  | processRxSignaling t p m =>
    refine iff_of_true (fun t' h q hq => ?_) not_false
    obtain ⟨pp, -, rfl⟩ := Option.map_eq_some_iff.mp h
    exact PdelaySystem.modify_of_ne hq
  | mdPdelayReq host clock t p =>
    rw [PortOperation.Isolated, hmachine, PdelaySystem.modify_id]
    exact Iff.rfl
  | processRxPdelayResp | processRxPdelayRespFup => exact hmachine

/-- A system right after `gptp_sw_init`. -/
def freshPdelaySystem : PdelaySystem := ⟨freshPort, clockIdentityOf exampleMac, delayMechanismP2P⟩

/-- **The first request of port 0 is recorded on port 8.** -/
theorem first_request_elsewhere :
    ¬ (PortOperation.mdPdelayReq bigEndianHost atBoot freshPdelaySystem 0 : PortOperation 1).Isolated := by
  intro h
  rcases machineIsolated_iff.mp h with h8 | hnone
  · exact absurd h8 (by decide)
  · exact hnone ⟨⟨rfl, rfl, rfl⟩, trivial⟩

end Gptp
