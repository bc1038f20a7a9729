/-
How long a port stays `asCapable` without responses.

`lostResponses` counts the entries into RESET since the last completed exchange, and stops one
beyond `allowedLostResponses`, where a further reset takes `asCapable` back.

* `LossesCounted` — the invariant, which relates the count to the history;
* `asCapable_bounded` — along every run, also in the middle of the loop of the machine.
-/
import AvbSwitch.PdelayHistory

open Octets Runs

namespace Gptp

/-- An exchange has been completed since the port last began to measure. -/
def completedExchange : List Happening → Bool
  | [] => false
  | .response :: h => completedExchange h
  | .entered _ after :: h =>
    match after.mdPdelayReqState with
    | .waitingForPdelayIntervalTimer => true
    | .initialSendPdelayReq => false
    | _ => completedExchange h

/-- The entries into RESET since the last completed exchange. -/
def resetsSince : List Happening → ℕ
  | [] => 0
  | .response :: h => resetsSince h
  | .entered _ after :: h =>
    match after.mdPdelayReqState with
    | .waitingForPdelayIntervalTimer => 0
    | .reset => resetsSince h + 1
    | _ => resetsSince h

/-- Losses are counted up to one more than is allowed, and a port is `asCapable` after a completed
exchange only, and not after more resets than that. -/
structure LossesBounded (pp : PdelayPort) (h : List Happening) : Prop where
  lost : pp.lostResponses.toNat ≤ pp.allowedLostResponses.toNat + 1
  capable : pp.mdPdelayReqState ≠ .notEnabled → pp.asCapable = true →
    completedExchange h = true ∧ resetsSince h ≤ pp.allowedLostResponses.toNat + 1

/-- The invariant: as long as a port is `asCapable`, no reset has gone uncounted. -/
structure LossesCounted (pp : PdelayPort) (h : List Happening) : Prop where
  allowed : pp.allowedLostResponses = 3
  lost : pp.lostResponses.toNat ≤ 4
  capable : pp.mdPdelayReqState ≠ .notEnabled → pp.asCapable = true →
    completedExchange h = true ∧ resetsSince h ≤ pp.lostResponses.toNat

variable {pp pp' : PdelayPort} {s : MDPdelayReqState} {h : List Happening}

theorem LossesCounted.bounded (hcounted : LossesCounted pp h) : LossesBounded pp h := by
  have hallowed : pp.allowedLostResponses.toNat + 1 = 4 := by
    rw [hcounted.allowed]
    rfl
  refine ⟨hallowed ▸ hcounted.lost, fun hstate hcapable => ?_⟩
  obtain ⟨hcompleted, hresets⟩ := hcounted.capable hstate hcapable
  exact ⟨hcompleted, hallowed ▸ hresets.trans hcounted.lost⟩

/-- A reset is counted, or takes `asCapable` back. -/
theorem LossesCounted.reset (hcounted : LossesCounted pp h) (hentry : EntryCounts .reset pp pp') :
    LossesCounted pp' (.entered pp pp' :: h) := by
  have hbefore := hentry.enabled MDPdelayReqState.noConfusion MDPdelayReqState.noConfusion
  have hlost := hentry.lost
  have hkeeps := hentry.capable
  rw [lostAfter, hcounted.allowed] at hlost
  rw [KeepsCapable, hcounted.allowed] at hkeeps
  by_cases hle : pp.lostResponses ≤ 3
  · have hnat : pp.lostResponses.toNat ≤ 3 := UInt32.le_iff_toNat_le.mp hle
    have hadd : pp'.lostResponses.toNat = pp.lostResponses.toNat + 1 := by
      rw [hlost, if_pos hle, UInt32.toNat_add]
      exact Nat.mod_eq_of_lt (by rw [UInt32.toNat_one]; omega)
    refine ⟨hentry.allowed.trans hcounted.allowed, by omega, fun _ hcapable => ?_⟩
    rw [hkeeps, decide_eq_true hle, Bool.and_true] at hcapable
    obtain ⟨hcompleted, hresets⟩ := hcounted.capable hbefore hcapable
    rw [completedExchange, resetsSince, hentry.state]
    refine ⟨hcompleted, ?_⟩
    show resetsSince h + 1 ≤ _
    omega
  · refine ⟨hentry.allowed.trans hcounted.allowed, ?_, fun _ hcapable => ?_⟩
    · rw [hlost, if_neg hle]
      exact hcounted.lost
    · rw [hkeeps, decide_eq_false hle, Bool.and_false] at hcapable
      cases hcapable

/-- **Losses keep being counted**, whatever happens on the port. -/
theorem lossesCounted_kept : KeptByHappenings LossesCounted where
  same hcounted hsame := by
    refine ⟨hsame.allowed.trans hcounted.allowed, hsame.lost ▸ hcounted.lost, ?_⟩
    rw [hsame.state, hsame.capable, hsame.lost]
    exact hcounted.capable
  response hcounted := ⟨hcounted.allowed, hcounted.lost, hcounted.capable⟩
  entered {s pp pp' h} hcounted hentry := by
    have hallowed := hentry.allowed.trans hcounted.allowed
    have hlost := hentry.lost
    have hkeeps := hentry.capable
    cases s with
    | reset => exact hcounted.reset hentry
    | notEnabled =>
      exact ⟨hallowed, hlost ▸ hcounted.lost, fun hstate => absurd hentry.state hstate⟩
    | initialSendPdelayReq =>
      refine ⟨hallowed, ?_, fun _ hcapable => ?_⟩
      · rw [hlost]
        exact Nat.zero_le _
      · exact absurd (hkeeps.symm.trans hcapable) Bool.false_ne_true
    | waitingForPdelayIntervalTimer =>
      -- the exchange is completed
      refine ⟨hallowed, ?_, fun _ _ => ?_⟩
      · rw [hlost]
        exact Nat.zero_le _
      · rw [completedExchange, resetsSince, hentry.state]
        exact ⟨rfl, Nat.zero_le _⟩
    | sendPdelayReq | waitingForPdelayResp | waitingForPdelayRespFollowUp =>
      refine ⟨hallowed, hlost ▸ hcounted.lost, fun _ hcapable => ?_⟩
      have hbefore := hentry.enabled MDPdelayReqState.noConfusion MDPdelayReqState.noConfusion
      rw [completedExchange, resetsSince, hentry.state, hlost]
      exact hcounted.capable hbefore (hkeeps.symm.trans hcapable)

/-- **`asCapable` is bounded by lost responses.**  In every run from `gptp_sw_init`, at each moment
of it, no more losses are counted than one beyond those allowed, and a port that takes part and is
`asCapable` has completed an exchange since it began to measure, and has not been reset more often
since the last one. -/
theorem asCapable_bounded (host : Host) (p : UInt8) (mac : Vector UInt8 6)
    (rxPhyMacDelay : PtpTime) (initialLogSyncInterval nbrPropDelayThresh : UInt8 → UInt32)
    (ports : UInt8 → Port) (events : List (PortEvent × ℕ)) :
    Throughout (portStep host p) (fun r => LossesBounded (r.system.ports p) r.history)
      (.start (.swInit mac rxPhyMacDelay initialLogSyncInterval nbrPropDelayThresh ports))
      events := by
  intro pre r _ hrun
  refine (portRun_kept lossesCounted_kept ?_ hrun).bounded
  -- nothing is lost yet, and the machine is not enabled
  exact ⟨rfl, Nat.zero_le _, fun hstate => absurd rfl hstate⟩

end Gptp
