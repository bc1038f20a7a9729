/-
Shutting a port down for multiple responses.

A port is to be disabled when more than one response has been received for each of three
successive requests.  `multiplePdelayResponses` counts the requests with more than one response,
and a request with exactly one response ends the count; a request without any leaves it as it is.

* `CountsMatch` — the invariant: the responses of the last request are counted, and the requests
  that are counted lie behind the last one with a single response;
* `shutdowns_justified_iff` — the runs in which a port is disabled only for three successive
  requests;
* `shutdown_not_justified` — a run with an unanswered request between the others.
-/
import AvbSwitch.PdelayHistory

open Octets Runs

namespace Gptp

/-! ### Requests and their responses -/

/-- The number of responses to each request, before the next one was sent; the last request
first. -/
def responseCounts : List Happening → List ℕ
  | [] => []
  | .response :: h => (responseCounts h).modifyHead (· + 1)
  | .entered _ after :: h =>
    if Sends after.mdPdelayReqState then 0 :: responseCounts h else responseCounts h

/-- The entry into SEND_PDELAY_REQ disables the port. -/
def ShutsDown (before after : PdelayPort) : Prop :=
  after.mdPdelayReqState = .sendPdelayReq ∧ before.portEnabled = true ∧ after.portEnabled = false

/-- Each of the last three requests had more than one response. -/
def ThreeOffences (counts : List ℕ) : Prop := 3 ≤ counts.length ∧ ∀ c ∈ counts.take 3, 1 < c

/-- A port is disabled only for three successive requests. -/
def ShutdownsJustified (h : List Happening) : Prop :=
  ∀ before after earlier, .entered before after :: earlier <:+ h → ShutsDown before after →
    ThreeOffences (responseCounts earlier)

/-- The counts are such that the next request disables the port. -/
structure Due (pp : PdelayPort) : Prop where
  portEnabled : pp.portEnabled = true
  responses : 1 < pp.pdelayResponses
  multiple : 3 ≤ pp.multiplePdelayResponses + 1

/-- The two requests before the last one were not left without a response. -/
def NoneUnanswered (counts : List ℕ) : Prop := ∀ c ∈ (counts.drop 1).take 2, c ≠ 0

/-- Where the counts disable the port, the two requests before the last one had a response. -/
def CountsAnswered (h : List Happening) : Prop :=
  ∀ before after earlier, .entered before after :: earlier <:+ h →
    after.mdPdelayReqState = .sendPdelayReq → Due before →
    NoneUnanswered (responseCounts earlier)

/-- The requests since the last one with a single response. -/
def sinceSingle (counts : List ℕ) : ℕ := (counts.takeWhile fun c => c ≠ 1).length

/-! ### The counts of the program -/

variable {host : Host} {p : UInt8} {pp pp' before after : PdelayPort} {s : MDPdelayReqState}
  {h earlier : List Happening} {r r' : PortRun} {events : List (PortEvent × ℕ)} {counts : List ℕ}

/-- What `pdelayResponses` and `multiplePdelayResponses` count. -/
structure CountsMatch (pp : PdelayPort) (h : List Happening) : Prop where
  sent : pp.mdPdelayReqState ≠ .notEnabled → responseCounts h ≠ []
  responses : ∀ c cs, responseCounts h = c :: cs → pp.pdelayResponses = UInt32.ofNat c
  multiple : pp.multiplePdelayResponses.toNat ≤ sinceSingle (responseCounts h).tail

@[simp] theorem sinceSingle_nil : sinceSingle [] = 0 := rfl

@[simp] theorem sinceSingle_one_cons : sinceSingle (1 :: counts) = 0 := rfl

theorem sinceSingle_cons {c : ℕ} (hc : c ≠ 1) :
    sinceSingle (c :: counts) = sinceSingle counts + 1 := by
  simp [sinceSingle, hc]

theorem responseCounts_response_tail :
    (responseCounts (.response :: h)).tail = (responseCounts h).tail := by
  rw [responseCounts]
  cases responseCounts h <;> rfl

theorem multiple_add_one_le {multiple : UInt32} : (multiple + 1).toNat ≤ multiple.toNat + 1 := by
  rw [UInt32.toNat_add]
  exact Nat.mod_le _ _

/-- A request is sent: the responses are counted anew, and those to the last one are judged. -/
theorem CountsMatch.sends (hmatch : CountsMatch pp h) (hentry : EntryCounts s pp pp')
    (hs : Sends s) : CountsMatch pp' (.entered pp pp' :: h) := by
  have hcounts : responseCounts (.entered pp pp' :: h) = 0 :: responseCounts h := by
    rw [responseCounts, hentry.state, if_pos hs]
  refine ⟨fun _ => ?_, fun c cs hc => ?_, ?_⟩
  · rw [hcounts]
    exact List.cons_ne_nil _ _
  · obtain ⟨rfl, -⟩ := List.cons.inj (hcounts.symm.trans hc)
    rw [hentry.responses]
    rcases hs with rfl | rfl <;> rfl
  · rw [hcounts, List.tail_cons, hentry.multiple]
    rcases hs with rfl | rfl
    · exact Nat.zero_le _
    · -- the last request is the first of those that the count is compared with
      obtain ⟨c, cs, hc⟩ := List.exists_cons_of_ne_nil
        (hmatch.sent (hentry.enabled MDPdelayReqState.noConfusion MDPdelayReqState.noConfusion))
      have hmultiple := hmatch.multiple
      rw [hc, List.tail_cons] at hmultiple
      rw [hc, multipleAfter]
      split_ifs with hone hmore
      · exact Nat.zero_le _
      all_goals
        have hne : c ≠ 1 := by
          rintro rfl
          exact hone (hmatch.responses 1 cs hc)
        rw [sinceSingle_cons hne]
      · exact multiple_add_one_le.trans (Nat.succ_le_succ hmultiple)
      · exact hmultiple.trans (Nat.le_succ _)

/-- No request is sent: the counts stay, or are given up with the port. -/
theorem CountsMatch.stays (hmatch : CountsMatch pp h) (hentry : EntryCounts s pp pp')
    (hs : ¬ Sends s) : CountsMatch pp' (.entered pp pp' :: h) := by
  have hcounts : responseCounts (.entered pp pp' :: h) = responseCounts h := by
    rw [responseCounts, hentry.state, if_neg hs]
  obtain ⟨hinitial, hsend⟩ := not_or.mp hs
  refine ⟨fun hstate => ?_, fun c cs hc => ?_, ?_⟩
  · rw [hcounts]
    rw [hentry.state] at hstate
    exact hmatch.sent (hentry.enabled hstate hinitial)
  · rw [hcounts] at hc
    rw [hentry.responses, ← hmatch.responses c cs hc]
    cases s with
    | initialSendPdelayReq => exact absurd rfl hinitial
    | sendPdelayReq => exact absurd rfl hsend
    | _ => rfl
  · rw [hcounts, hentry.multiple]
    cases s with
    | initialSendPdelayReq => exact absurd rfl hinitial
    | sendPdelayReq => exact absurd rfl hsend
    | notEnabled => exact Nat.zero_le _
    | _ => exact hmatch.multiple

/-- **The counts keep matching**, whatever happens on the port. -/
theorem countsMatch_kept : KeptByHappenings CountsMatch where
  same hmatch hsame :=
    ⟨fun hstate => hmatch.sent (hsame.state ▸ hstate),
      fun c cs hc => hsame.responses.trans (hmatch.responses c cs hc),
      hsame.multiple ▸ hmatch.multiple⟩
  response {pp h} hmatch := by
    refine ⟨fun hstate => ?_, fun c cs hc => ?_, ?_⟩
    · obtain ⟨c, cs, hc⟩ := List.exists_cons_of_ne_nil (hmatch.sent hstate)
      rw [responseCounts, hc]
      exact List.cons_ne_nil _ _
    · rw [responseCounts] at hc
      cases hcounts : responseCounts h with
      | nil =>
        rw [hcounts] at hc
        cases hc
      | cons c' cs' =>
        rw [hcounts] at hc
        obtain ⟨rfl, rfl⟩ := List.cons.inj hc
        show pp.pdelayResponses + 1 = _
        rw [hmatch.responses c' cs' hcounts, UInt32.ofNat_add]
        rfl
    · rw [responseCounts_response_tail]
      exact hmatch.multiple
  entered {s pp pp' h} hmatch hentry := by
    by_cases hs : Sends s
    · exact hmatch.sends hentry hs
    · exact hmatch.stays hentry hs

/-- Nothing has been counted before the first request. -/
theorem CountsMatch.of_notEnabled (hstate : pp.mdPdelayReqState = .notEnabled)
    (hmultiple : pp.multiplePdelayResponses = 0) : CountsMatch pp [] := by
  refine ⟨fun hne => absurd hstate hne, fun c cs hc => ?_, ?_⟩
  · cases hc
  · rw [hmultiple]
    exact Nat.zero_le _

/-! ### When the port is disabled -/

theorem shutsDown_iff (hentry : EntryCounts after.mdPdelayReqState before after) :
    ShutsDown before after ↔ after.mdPdelayReqState = .sendPdelayReq ∧ Due before := by
  refine and_congr_right fun hsend => ?_
  have henabled := hentry.portEnabled
  rw [hsend, enabledAfter] at henabled
  constructor
  · rintro ⟨hbefore, hafter⟩
    by_cases hdue : 1 < before.pdelayResponses ∧ 3 ≤ before.multiplePdelayResponses + 1
    · exact ⟨hbefore, hdue.1, hdue.2⟩
    · rw [if_neg hdue, hbefore, hafter] at henabled
      cases henabled
  · rintro ⟨hbefore, hresponses, hmultiple⟩
    rw [if_pos ⟨hresponses, hmultiple⟩] at henabled
    exact ⟨hbefore, henabled⟩

/-- Where the counts disable the port, the last request had more than one response, and neither of
the two before it had exactly one. -/
theorem CountsMatch.of_due (hmatch : CountsMatch pp h) (hstate : pp.mdPdelayReqState ≠ .notEnabled)
    (hdue : Due pp) : ∃ c₁ c₂ c₃ cs, responseCounts h = c₁ :: c₂ :: c₃ :: cs ∧ 1 < c₁ ∧
      c₂ ≠ 1 ∧ c₃ ≠ 1 := by
  obtain ⟨c₁, cs, hc⟩ := List.exists_cons_of_ne_nil (hmatch.sent hstate)
  have hresponses := hmatch.responses c₁ cs hc
  have hmultiple := hmatch.multiple
  have hc₁ : 1 < c₁ := by
    have hlt := UInt32.lt_iff_toNat_lt.mp hdue.responses
    rw [hresponses, UInt32.toNat_ofNat'] at hlt
    exact lt_of_lt_of_le hlt (Nat.mod_le _ _)
  have htwo : 2 ≤ pp.multiplePdelayResponses.toNat := by
    have hle := (UInt32.le_iff_toNat_le.mp hdue.multiple).trans multiple_add_one_le
    exact Nat.le_of_succ_le_succ hle
  rw [hc, List.tail_cons] at hmultiple
  have hsince := htwo.trans hmultiple
  -- the first two requests before the last one are among those that are counted
  cases cs with
  | nil => exact absurd hsince (by simp)
  | cons c₂ cs =>
    have hc₂ : c₂ ≠ 1 := by
      rintro rfl
      simp at hsince
    rw [sinceSingle_cons hc₂] at hsince
    cases cs with
    | nil => exact absurd hsince (by simp)
    | cons c₃ cs =>
      have hc₃ : c₃ ≠ 1 := by
        rintro rfl
        simp at hsince
      exact ⟨c₁, c₂, c₃, cs, hc, hc₁, hc₂, hc₃⟩

/-- At one entry: the requests are three successive offences if none was left out. -/
theorem CountsMatch.justified_iff (hmatch : CountsMatch pp h)
    (hstate : pp.mdPdelayReqState ≠ .notEnabled) (hdue : Due pp) :
    ThreeOffences (responseCounts h) ↔ NoneUnanswered (responseCounts h) := by
  obtain ⟨c₁, c₂, c₃, cs, hc, hc₁, hc₂, hc₃⟩ := hmatch.of_due hstate hdue
  rw [hc]
  simp only [ThreeOffences, NoneUnanswered, List.length_cons, List.take_succ_cons, List.take_zero,
    List.drop_succ_cons, List.drop_zero, List.forall_mem_cons, List.not_mem_nil, false_implies,
    implies_true, and_true]
  omega

/-- What `gptp_sw_init` leaves matches a history in which nothing has happened. -/
theorem swInit_countsMatch {mac : Vector UInt8 6} {rxPhyMacDelay : PtpTime}
    {initialLogSyncInterval nbrPropDelayThresh : UInt8 → UInt32} {ports : UInt8 → Port} :
    CountsMatch ((PdelaySystem.swInit mac rxPhyMacDelay initialLogSyncInterval nbrPropDelayThresh
      ports).ports p) [] :=
  .of_notEnabled rfl rfl

/-- In the history of a run, the two conditions say the same. -/
theorem shutdownsJustified_iff (hmatch : CountsMatch (r.system.ports p) r.history)
    (hhistory : r.history = []) (hrun : run (portStep host p) r events = some r') :
    ShutdownsJustified r'.history ↔ CountsAnswered r'.history := by
  have hkept := portRun_kept countsMatch_kept.atEntries (p := p) ⟨hmatch, fun _ _ _ hsuffix => by
    rw [hhistory] at hsuffix
    exact absurd (List.suffix_nil.mp hsuffix) (List.cons_ne_nil _ _)⟩ hrun
  refine forall₃_congr fun before after earlier => forall_congr' fun hsuffix => ?_
  obtain ⟨hbefore, hentry⟩ := hkept.2 before after earlier hsuffix
  rw [shutsDown_iff hentry, and_imp]
  refine forall₂_congr fun hsend hdue => ?_
  have hstate : before.mdPdelayReqState ≠ .notEnabled :=
    hentry.enabled (by rw [hsend]; exact MDPdelayReqState.noConfusion)
      (by rw [hsend]; exact MDPdelayReqState.noConfusion)
  exact hbefore.justified_iff hstate hdue

/-- **When a port is disabled only for three successive requests.**  In every run from
`gptp_sw_init`, every entry that disables the port comes after three requests with more than one
response each, if and only if, wherever the counts disable the port, neither of the two requests
before the last one was left without a response. -/
theorem shutdowns_justified_iff (host : Host) (p : UInt8) (mac : Vector UInt8 6)
    (rxPhyMacDelay : PtpTime) (initialLogSyncInterval nbrPropDelayThresh : UInt8 → UInt32)
    (ports : UInt8 → Port) (events : List (PortEvent × ℕ)) :
    let start := PortRun.start (.swInit mac rxPhyMacDelay initialLogSyncInterval
      nbrPropDelayThresh ports)
    Throughout (portStep host p) (fun r => ShutdownsJustified r.history) start events ↔
      Throughout (portStep host p) (fun r => CountsAnswered r.history) start events := by
  intro start
  refine forall₂_congr fun pre r => forall₂_congr fun _ hrun => ?_
  exact shutdownsJustified_iff swInit_countsMatch rfl hrun

/-! ### An unanswered request -/

/-- A second passes, and a request is sent. -/
def secondPasses : PortEvent × ℕ := (.tick atBoot, 8)

/-- A response to nothing in particular. -/
def strayAnswer : PortEvent × ℕ := (.pdelayResp atBoot fun _ => 0, 8)

/-- Four requests with two, no, two and two responses, and the one that disables the port. -/
def gappedOffences : List (PortEvent × ℕ) :=
  [secondPasses, strayAnswer, strayAnswer, secondPasses, secondPasses, strayAnswer, strayAnswer,
    secondPasses, strayAnswer, strayAnswer, secondPasses]

/-- A system that has just been initialised. -/
def exampleStart : PortRun :=
  .start (.swInit exampleMac ⟨0, 0, 1⟩ (fun _ => 3) (fun _ => 800)
    ((staticMemory ⟨1, 1⟩ fun _ : Fin 1 => ⟨3, 3⟩).ports ∘ fun _ => ⟨0, Nat.one_pos⟩))

/-- The counts of responses at the last entry, if that has disabled the port. -/
def lastShutdown : List Happening → Option (List ℕ)
  | .entered before after :: earlier =>
    if after.mdPdelayReqState = .sendPdelayReq ∧ before.portEnabled = true ∧
      after.portEnabled = false then some (responseCounts earlier) else none
  | _ => none

theorem ShutdownsJustified.lastShutdown (hjustified : ShutdownsJustified h)
    (hlast : lastShutdown h = some counts) : ThreeOffences counts := by
  rw [Gptp.lastShutdown.eq_def] at hlast
  split at hlast
  case h_1 before after earlier =>
    obtain ⟨hshuts, hcounts⟩ := Option.ite_none_right_eq_some.mp hlast
    rw [← Option.some_inj.mp hcounts]
    exact hjustified before after earlier List.suffix_rfl hshuts
  case h_2 => cases hlast

/-- **The port is disabled although one of the last three requests had no response.** -/
theorem shutdown_not_justified :
    ¬ Throughout (portStep bigEndianHost 0) (fun r => ShutdownsJustified r.history) exampleStart
      gappedOffences := by
  intro hthroughout
  have hlast : ((run (portStep bigEndianHost 0) exampleStart gappedOffences).bind fun r =>
      lastShutdown r.history) = some [2, 2, 0, 2] := by
    decide +kernel
  obtain ⟨r, hr, hlast⟩ := Option.bind_eq_some_iff.mp hlast
  have hoffences := (hthroughout _ r List.prefix_rfl hr).lastShutdown hlast
  exact absurd (hoffences.2 0 (by simp)) (by simp)

end Gptp
