/-
Which responses MDPdelayReq accepts.

A response should be accepted if it echoes the identity and the sequence number of the
outstanding request (`Echoes`).  What the machine compares with is something else
(`Accepts`): the port number is made from the index of the port instead of
`us_portNumber`, and the sequence number is loaded from four octets, where the frame has
two.  `pdelay_echo_iff` says for which frames the two agree.
-/
import AvbSwitch.FrameFields
import AvbSwitch.PdelayTermination

open Octets

namespace Gptp

variable {host : Host} {clock : Clock} {t t' : PdelaySystem} {p : UInt8} {pp pp' : PdelayPort}
  {s : MDPdelayReqState} {l : Locals} {fuel : ℕ} {entries : List PdelayPort} {m request : Mem}
  {rx : RxFrame}

/-! ### Echoes -/

/-- The frame repeats the port identity and the sequence number of the request. -/
def Echoes (request m : Mem) : Prop :=
  getReceivingPortId m = getSourcePortId request ∧ shortAt m 30 = shortAt request 30

/-- The frame has the port identity and the sequence number that the machine asks for. -/
def Accepts (p : UInt8) (pp : PdelayPort) (m : Mem) : Prop :=
  getReceivingPortId m = getSourcePortIdFromPort p pp ∧
    sequenceIdOf m = pp.pdelayReqSequenceId.toNat

/-- The identity and the sequence number of the outstanding request. -/
theorem Outstanding.fields (h : Outstanding host pp) :
    getSourcePortId pp.pdelayReq = ⟨clockIdentityOf pp.macaddr, .put pp.usPortNumber.toNat⟩ ∧
      shortAt pp.pdelayReq 30 = .put pp.pdelayReqSequenceId.toNat := by
  obtain ⟨currTime, hreq⟩ := h
  -- the timestamp is at the size of a pointer, before these fields
  have hlen := @putTimestamp_length host.bigEndian currTime
  have hle := host.sizeofPointer_le
  rw [hreq, getSourcePortId, pdelayRequest]
  constructor
  · simp (disch := omega) only [clockIdentityAt_putList, clockIdentityAt_put, clockIdentityAt_put2,
      clockIdentityAt_putList_same, shortAt_putList, shortAt_put, shortAt_put2, shortAt_put2_same]
  · simp (disch := omega) only [shortAt_putList, shortAt_put, shortAt_put2_same]

theorem samePort_iff : (Comparison.of p pp m).samePort ↔
    getReceivingPortId m = getSourcePortIdFromPort p pp := by
  rw [Comparison.samePort, decide_eq_true_iff, comparePortIds_eq_iff]
  rfl

theorem sameSequence_iff : (Comparison.of p pp m).sameSequence ↔
    sequenceIdOf m = pp.pdelayReqSequenceId.toNat :=
  decide_eq_true_iff

/-! ### States that are entered -/

/-- The state is entered while the handler runs. -/
def Enters (run : ℕ → Option (PdelaySystem × List PdelayPort)) (s : MDPdelayReqState) : Prop :=
  ∃ fuel t' entries, run fuel = some (t', entries) ∧ ∃ e ∈ entries, e.mdPdelayReqState = s

/-- The loop, with any fuel. -/
def loop (host : Host) (clock : Clock) (l : Locals) (p : UInt8) (t : PdelaySystem) (fuel : ℕ) :
    Option (PdelaySystem × List PdelayPort) :=
  mdPdelayReqTurns host clock l p fuel t

theorem not_enters_of_rest (h : mdPdelayReqNextState l (t.ports p) = some none) :
    ¬ Enters (loop host clock l p t) s := by
  rintro ⟨fuel, t', entries, hrun, e, he, -⟩
  cases fuel with
  | zero => exact absurd hrun nofun
  | succ fuel =>
    obtain ⟨t₁, ht₁, -⟩ := @mdPdelayReqTurns_of_rest host clock t p l fuel h
    obtain ⟨-, rfl⟩ := Prod.mk.inj (Option.some_inj.mp (ht₁.symm.trans hrun))
    exact absurd he List.not_mem_nil

/-- What is entered from here on: the next state, and what is entered from there. -/
theorem enters_of_next {next : MDPdelayReqState} (hpos : (t.ports p).PositiveInterval)
    (h : Transition l (t.ports p) next) :
    Enters (loop host clock l p t) s ↔
      next = s ∨ Enters (loop host clock l p (mdPdelayReqSetState host clock t p next)) s := by
  have hnext := mdPdelayReqNextState_eq_iff.mpr h
  have hstate : ((mdPdelayReqSetState host clock t p next).ports p).mdPdelayReqState = next :=
    (@mdPdelayReqSetState_entry host clock t p next).state
  constructor
  · rintro ⟨fuel, t', entries, hrun, e, he, hs⟩
    cases fuel with
    | zero => exact absurd hrun nofun
    | succ fuel =>
      rw [loop, mdPdelayReqTurns_of_next hnext] at hrun
      obtain ⟨⟨t₁, es⟩, hturns, heq⟩ := Option.map_eq_some_iff.mp hrun
      obtain ⟨-, rfl⟩ := Prod.mk.inj heq
      rcases List.mem_cons.mp he with rfl | he
      · exact Or.inl (hstate.symm.trans hs)
      · exact Or.inr ⟨fuel, t₁, es, hturns, e, he, hs⟩
  · rintro (rfl | ⟨fuel, t', entries, hrun, e, he, hs⟩)
    · obtain ⟨⟨t', entries⟩, hrun⟩ := Option.isSome_iff_exists.mp
        (@mdPdelayReqTurns_isSome host clock t p l 8 hpos entriesLeft_lt_eight)
      refine ⟨8, t', entries, hrun, ?_⟩
      rw [mdPdelayReqTurns_of_next hnext] at hrun
      obtain ⟨r, -, heq⟩ := Option.map_eq_some_iff.mp hrun
      obtain ⟨-, rfl⟩ := Prod.mk.inj heq
      exact ⟨_, List.mem_cons_self, hstate⟩
    · refine ⟨fuel + 1, t', (mdPdelayReqSetState host clock t p next).ports p :: entries, ?_, e,
        List.mem_cons_of_mem _ he, hs⟩
      rw [loop, mdPdelayReqTurns_of_next hnext]
      exact congrArg (Option.map _) hrun

/-- Without a response no follow-up is waited for. -/
theorem not_enters_of_no_resp (hresp : (t.ports p).rcvdPdelayResp = false)
    (hstate : (t.ports p).mdPdelayReqState ≠ .waitingForPdelayRespFollowUp)
    (hne : (t.ports p).mdPdelayReqState ≠ .waitingForPdelayIntervalTimer)
    (hs : s = .waitingForPdelayRespFollowUp ∨ s = .waitingForPdelayIntervalTimer) :
    ¬ Enters (loop host clock l p t) s := by
  rintro ⟨fuel, t', entries, hrun, e, he, rfl⟩
  have hI := mdPdelayReqTurns_entered (I := fun pp => pp.rcvdPdelayResp = false ∧
      pp.mdPdelayReqState ≠ .waitingForPdelayRespFollowUp ∧
      pp.mdPdelayReqState ≠ .waitingForPdelayIntervalTimer) (E := fun pp =>
      pp.mdPdelayReqState ≠ .waitingForPdelayRespFollowUp ∧
      pp.mdPdelayReqState ≠ .waitingForPdelayIntervalTimer) ?_ (fun h _ => h)
      ⟨hresp, hstate, hne⟩ hrun
  · exact hs.elim (hI.2 e he).1 (hI.2 e he).2
  · rintro pp pp' s ⟨hresp, hfollowUp, htimer⟩ htrans hentry
    have hresp' : pp'.rcvdPdelayResp = false := by rw [hentry.resp, hresp, respAfter_false]
    rw [hentry.state]
    cases htrans with
    | answered _ _ h => exact absurd (hresp.symm.trans h) nofun
    | followedUp h => exact absurd h hfollowUp
    | _ => exact ⟨⟨hresp', nofun, nofun⟩, nofun, nofun⟩

/-! ### What is accepted -/

/-- The port takes part in the peer delay mechanism. -/
def Operating (t : PdelaySystem) (p : UInt8) : Prop :=
  t.delayMechanism = delayMechanismP2P ∧ (t.ports p).portEnabled && (t.ports p).pttPortEnabled

theorem machine_eq_loop (h : Operating t p) :
    (fun fuel => mdPdelayReqStateMachine fuel host clock t p) =
      loop host clock (Locals.of p (t.ports p)) p t :=
  funext fun _ => mdPdelayReqStateMachine_of_enabled h.1 h.2

/-- A port that takes no part in it enters no other state. -/
theorem not_enters_of_not_operating (h : ¬ Operating t p) (hs : s ≠ .notEnabled) :
    ¬ Enters (fun fuel => mdPdelayReqStateMachine fuel host clock t p) s := by
  rintro ⟨fuel, t', entries, hrun, e, he, rfl⟩
  obtain ⟨t₁, entries₁, hmachine, hcases⟩ := @mdPdelayReqStateMachine_of_disabled host clock t p fuel
    fun hp2p => Bool.eq_false_iff.mpr fun hport => h ⟨hp2p, hport⟩
  obtain ⟨rfl, rfl⟩ := Prod.mk.inj (Option.some_inj.mp (hmachine.symm.trans hrun))
  rcases hcases with ⟨-, rfl, -⟩ | ⟨rfl, rfl⟩
  · exact absurd he List.not_mem_nil
  · obtain rfl := List.mem_singleton.mp he
    exact hs mdPdelayReqSetState_entry.state

theorem accepts_iff_comparison : Accepts p pp m ↔
    (Comparison.of p pp m).samePort ∧ (Comparison.of p pp m).sameSequence := by
  rw [samePort_iff, sameSequence_iff, Accepts]

/-- From the wait for a follow-up the machine goes on if the follow-up is the right one. -/
theorem enters_of_waitingForFollowUp
    (hstate : (t.ports p).mdPdelayReqState = .waitingForPdelayRespFollowUp)
    (hexpired : (t.ports p).intervalExpired = some false)
    (hresp : (t.ports p).rcvdPdelayResp = false) :
    Enters (loop host clock l p t) .waitingForPdelayIntervalTimer ↔
      (t.ports p).rcvdPdelayRespFollowUp ∧ l.fup.samePort ∧ l.fup.sameSequence := by
  -- the machine either goes on or comes to rest where it is
  by_cases hfup : (t.ports p).rcvdPdelayRespFollowUp ∧ l.fup.samePort ∧ l.fup.sameSequence
  · rw [enters_of_next (positiveInterval_of_not_expired hexpired) (.followedUp hstate hexpired
      (fun h => absurd (hresp.symm.trans h) nofun) hfup.1 hfup.2.1 hfup.2.2)]
    exact iff_of_true (Or.inl rfl) hfup
  · refine iff_of_false (not_enters_of_rest ?_) hfup
    rw [mdPdelayReqNextState, hstate]
    simp only [hexpired, hresp, Option.map_some]
    grind

/-- From the wait for a response the machine goes on if the response is accepted, and further
on if a follow-up had come before and is accepted as well. -/
theorem enters_of_waitingForPdelayResp
    (hstate : (t.ports p).mdPdelayReqState = .waitingForPdelayResp)
    (hexpired : (t.ports p).intervalExpired = some false) (hresp : (t.ports p).rcvdPdelayResp) :
    (Enters (loop host clock (Locals.of p (t.ports p)) p t) .waitingForPdelayRespFollowUp ↔
        Accepts p (t.ports p) (t.ports p).rcvdPdelayRespPtr.octets) ∧
      (Enters (loop host clock (Locals.of p (t.ports p)) p t) .waitingForPdelayIntervalTimer ↔
        Accepts p (t.ports p) (t.ports p).rcvdPdelayRespPtr.octets ∧
          (t.ports p).rcvdPdelayRespFollowUp ∧
          Accepts p (t.ports p) (t.ports p).rcvdPdelayRespFollowUpPtr.octets) := by
  have hpos := positiveInterval_of_not_expired hexpired
  have hlocal : (Locals.of p (t.ports p)).resp =
      .of p (t.ports p) (t.ports p).rcvdPdelayRespPtr.octets := if_pos hresp
  by_cases haccepts : Accepts p (t.ports p) (t.ports p).rcvdPdelayRespPtr.octets
  -- the next turn is that of the wait for a follow-up
  · obtain ⟨hport, hsequence⟩ := accepts_iff_comparison.mp haccepts
    have htrans : Transition (Locals.of p (t.ports p)) (t.ports p) .waitingForPdelayRespFollowUp :=
      .answered hstate hexpired hresp (hlocal ▸ hport) (hlocal ▸ hsequence)
    have hentry := @mdPdelayReqSetState_entry host clock t p .waitingForPdelayRespFollowUp
    have hfup : ((mdPdelayReqSetState host clock t p .waitingForPdelayRespFollowUp).ports
        p).rcvdPdelayRespFollowUp = (t.ports p).rcvdPdelayRespFollowUp := hentry.fup
    rw [enters_of_next hpos htrans, enters_of_next hpos htrans,
      enters_of_waitingForFollowUp hentry.state
        ((hentry.intervalExpired hentry.timer).trans hexpired) hentry.resp, hfup]
    refine ⟨iff_of_true (Or.inl rfl) haccepts, ?_⟩
    constructor
    · rintro (h | ⟨hfup, hboth⟩)
      · exact absurd h nofun
      · rw [Locals.of, if_pos hfup] at hboth
        exact ⟨haccepts, hfup, accepts_iff_comparison.mpr hboth⟩
    · rintro ⟨-, hfup, hboth⟩
      refine Or.inr ⟨hfup, ?_⟩
      rw [Locals.of, if_pos hfup]
      exact accepts_iff_comparison.mp hboth
  · -- the machine resets, and what was received is gone
    have htrans : Transition (Locals.of p (t.ports p)) (t.ports p) .reset := by
      refine .unanswered hstate hexpired (Or.inr ⟨hresp, Bool.eq_false_iff.mpr fun h => ?_⟩)
      rw [hlocal] at h
      exact haccepts (accepts_iff_comparison.mpr (Bool.and_eq_true_iff.mp h))
    have hentry := @mdPdelayReqSetState_entry host clock t p .reset
    have hnot : ∀ {s}, s = .waitingForPdelayRespFollowUp ∨ s = .waitingForPdelayIntervalTimer →
        ¬ Enters (loop host clock (Locals.of p (t.ports p)) p t) s := by
      intro s hs
      rw [enters_of_next hpos htrans, not_or]
      refine ⟨?_, not_enters_of_no_resp hentry.resp (hentry.state.trans_ne nofun)
        (hentry.state.trans_ne nofun) hs⟩
      rcases hs with rfl | rfl <;> exact nofun
    exact ⟨iff_of_false (hnot (Or.inl rfl)) haccepts,
      iff_of_false (hnot (Or.inr rfl)) fun h => haccepts h.1⟩

/-! ### Where the two agree -/

/-- The octets of a port number that is also the index of the port. -/
theorem put_usPortNumber_eq_iff {us : UInt16} :
    Short.put us.toNat = ⟨UInt8.ofNat (p.toNat * 256), p⟩ ↔ us = p.toUInt16 := by
  have hhi : UInt8.ofNat (p.toNat * 256) = 0 := by
    rw [← UInt8.toNat_inj, UInt8.toNat_ofNat', Nat.mul_mod_left]
    rfl
  rw [hhi, ← UInt16.toNat_inj, UInt8.toNat_toUInt16]
  constructor
  · intro h
    have hget := congrArg Short.get h
    rw [Short.get_put us.toNat_lt] at hget
    simpa [Short.get] using hget
  · intro h
    rw [h]
    have hget : (⟨0, p⟩ : Short).get = p.toNat := by simp [Short.get]
    rw [← hget, Short.put_get]

/-- A frame is accepted and is an echo only for the sequence number 0, and if the port number
is the index. -/
theorem agree_of_accepts_of_echoes (hout : Outstanding host pp) (haccepts : Accepts p pp m)
    (hechoes : Echoes pp.pdelayReq m) :
    pp.usPortNumber = p.toUInt16 ∧ pp.pdelayReqSequenceId = 0 ∧ m 32 = 0 ∧ m 33 = 0 := by
  obtain ⟨hid, hseq⟩ := hout.fields
  obtain ⟨haid, haseq⟩ := haccepts
  obtain ⟨heid, heseq⟩ := hechoes
  have hport := haid.symm.trans (heid.trans hid)
  simp only [getSourcePortIdFromPort, PortIdentity.mk.injEq, true_and] at hport
  have hget : (shortAt m 30).get = pp.pdelayReqSequenceId.toNat := by
    rw [heseq, hseq, Short.get_put pp.pdelayReqSequenceId.toNat_lt]
  -- of the four octets, the first two are the sequence number, and so are all four
  have hlt := pp.pdelayReqSequenceId.toNat_lt
  have hfour : (shortAt m 30).get * 65536 + (shortAt m 32).get = pp.pdelayReqSequenceId.toNat :=
    haseq
  have hzero : pp.pdelayReqSequenceId.toNat = 0 := by omega
  have hrest : (m 32).toNat * 256 + (m 33).toNat = 0 := by
    show (shortAt m 32).get = 0
    omega
  refine ⟨put_usPortNumber_eq_iff.mp hport.symm, UInt16.toNat_inj.mp hzero, ?_, ?_⟩ <;>
    rw [← UInt8.toNat_inj, UInt8.toNat_zero] <;> omega

theorem accepts_iff_echoes (hout : Outstanding host pp) (hport : pp.usPortNumber = p.toUInt16)
    (hseq : pp.pdelayReqSequenceId = 0) (h32 : m 32 = 0) (h33 : m 33 = 0) :
    Accepts p pp m ↔ Echoes pp.pdelayReq m := by
  obtain ⟨hreqid, hreqseq⟩ := hout.fields
  rw [Accepts, Echoes, hreqid, hreqseq, getSourcePortIdFromPort,
    put_usPortNumber_eq_iff.mpr hport, hseq]
  refine and_congr_right fun _ => ?_
  have hrest : get2 m 32 = 0 := by rw [get2, h32, h33]; rfl
  rw [sequenceIdOf, hrest]
  constructor
  · intro h
    have hzero : (shortAt m 30).get = 0 := by
      show get2 m 30 = 0
      have : UInt16.toNat 0 = 0 := rfl
      omega
    rw [← Short.put_get (s := shortAt m 30), hzero]
    rfl
  · intro h
    have hzero : get2 m 30 = (shortAt m 30).get := rfl
    rw [hzero, h]
    rfl

/-- For the sequence number 0 and a port number that is the index, what is accepted is an echo. -/
theorem echoes_of_accepts (hout : Outstanding host pp) (hport : pp.usPortNumber = p.toUInt16)
    (hseq : pp.pdelayReqSequenceId = 0) (h : Accepts p pp m) : Echoes pp.pdelayReq m := by
  have hzero : ((m 30).toNat * 256 + (m 31).toNat) * 65536 +
      ((m 32).toNat * 256 + (m 33).toNat) = 0 := by
    have hfour : sequenceIdOf m = 0 := by rw [h.2, hseq]; rfl
    exact hfour
  refine (accepts_iff_echoes hout hport hseq ?_ ?_).mp h <;>
    rw [← UInt8.toNat_inj, UInt8.toNat_zero] <;> omega

/-- **Where the machine accepts exactly the echoes.** -/
theorem accepts_iff_echoes_iff (hout : Outstanding host pp) :
    (Accepts p pp m ↔ Echoes pp.pdelayReq m) ↔
      (pp.usPortNumber = p.toUInt16 ∧ pp.pdelayReqSequenceId = 0 ∧ m 32 = 0 ∧ m 33 = 0) ∨
        ¬ Accepts p pp m ∧ ¬ Echoes pp.pdelayReq m := by
  constructor
  · intro h
    by_cases haccepts : Accepts p pp m
    · exact Or.inl (agree_of_accepts_of_echoes hout haccepts (h.mp haccepts))
    · exact Or.inr ⟨haccepts, fun hechoes => haccepts (h.mpr hechoes)⟩
  · rintro (⟨hport, hseq, h32, h33⟩ | ⟨haccepts, hechoes⟩)
    · exact accepts_iff_echoes hout hport hseq h32 h33
    · exact iff_of_false haccepts hechoes

/-! ### The handlers -/

/-- A response that is received in the wait for it. -/
theorem enters_resp (hop : Operating t p)
    (hstate : (t.ports p).mdPdelayReqState = .waitingForPdelayResp)
    (hexpired : (t.ports p).intervalExpired = some false) :
    (Enters (fun fuel => processRxPdelayResp fuel host clock t p rx) .waitingForPdelayRespFollowUp ↔
        Accepts p (t.ports p) rx.octets) ∧
      (Enters (fun fuel => processRxPdelayResp fuel host clock t p rx)
          .waitingForPdelayIntervalTimer ↔
        Accepts p (t.ports p) rx.octets ∧ (t.ports p).rcvdPdelayRespFollowUp ∧
          Accepts p (t.ports p) (t.ports p).rcvdPdelayRespFollowUpPtr.octets) := by
  have hports : (t.modify p (takePdelayResp host clock rx)).ports p =
      takePdelayResp host clock rx (t.ports p) := PdelaySystem.modify_self
  have hop' : Operating (t.modify p (takePdelayResp host clock rx)) p := by
    rw [Operating, hports]
    exact hop
  simp only [processRxPdelayResp, machine_eq_loop hop']
  have henters := @enters_of_waitingForPdelayResp host clock
    (t.modify p (takePdelayResp host clock rx)) p
  rw [hports] at henters ⊢
  exact henters hstate hexpired rfl

/-- A follow-up that is received in the wait for it. -/
theorem enters_fup (hop : Operating t p)
    (hstate : (t.ports p).mdPdelayReqState = .waitingForPdelayRespFollowUp)
    (hexpired : (t.ports p).intervalExpired = some false)
    (hresp : (t.ports p).rcvdPdelayResp = false) :
    Enters (fun fuel => processRxPdelayRespFup fuel host clock t p rx)
        .waitingForPdelayIntervalTimer ↔
      Accepts p (t.ports p) rx.octets := by
  have hports : (t.modify p (takePdelayRespFup rx)).ports p =
      takePdelayRespFup rx (t.ports p) := PdelaySystem.modify_self
  have hop' : Operating (t.modify p (takePdelayRespFup rx)) p := by
    rw [Operating, hports]
    exact hop
  simp only [processRxPdelayRespFup, machine_eq_loop hop']
  have henters := @enters_of_waitingForFollowUp host clock (t.modify p (takePdelayRespFup rx)) p
    (Locals.of p (takePdelayRespFup rx (t.ports p)))
  rw [hports] at henters ⊢
  rw [henters hstate hexpired hresp]
  constructor
  · rintro ⟨-, hboth⟩
    exact accepts_iff_comparison.mpr hboth
  · intro haccepts
    exact ⟨rfl, accepts_iff_comparison.mp haccepts⟩

theorem not_operating_modify {f : PdelayPort → PdelayPort} (h : ¬ Operating t p)
    (hf : (f (t.ports p)).toPort = (t.ports p).toPort) : ¬ Operating (t.modify p f) p := by
  rwa [Operating, PdelaySystem.modify_self, hf]

/-- What is asked of a frame for the machine to treat it as it should: the port takes part, and
either the port number is the index, the sequence number is 0 and the two octets after it in the
frame are 0, or the frame neither is accepted nor echoes the request; or the port takes no part,
and the frame is no echo. -/
def TreatedRightly (t : PdelaySystem) (p : UInt8) (m : Mem) : Prop :=
  (Operating t p →
    ((t.ports p).usPortNumber = p.toUInt16 ∧ (t.ports p).pdelayReqSequenceId = 0 ∧
        m 32 = 0 ∧ m 33 = 0) ∨
      ¬ Accepts p (t.ports p) m ∧ ¬ Echoes (t.ports p).pdelayReq m) ∧
    (¬ Operating t p → ¬ Echoes (t.ports p).pdelayReq m)

theorem enters_iff_echoes_iff {run : ℕ → Option (PdelaySystem × List PdelayPort)}
    (hout : Outstanding host (t.ports p))
    (hoperating : Operating t p → (Enters run s ↔ Accepts p (t.ports p) m))
    (hnot : ¬ Operating t p → ¬ Enters run s) :
    (Enters run s ↔ Echoes (t.ports p).pdelayReq m) ↔ TreatedRightly t p m := by
  by_cases hop : Operating t p
  · rw [hoperating hop, accepts_iff_echoes_iff hout, TreatedRightly]
    exact ⟨fun h => ⟨fun _ => h, fun h' => absurd hop h'⟩, fun h => h.1 hop⟩
  · rw [iff_false_left (hnot hop), TreatedRightly]
    exact ⟨fun h => ⟨fun h' => absurd h' hop, fun _ => h⟩, fun h => h.2 hop⟩

/-- **An echo of the outstanding request is what makes the machine go on, exactly where
`TreatedRightly` holds of the frame**: a response from the wait for it, and a follow-up once a
response has been accepted.  A follow-up that came before the response is looked at together
with it. -/
theorem pdelay_echo_iff (host : Host) (clock : Clock) (t : PdelaySystem) (p : UInt8) (rx : RxFrame)
    (hout : Outstanding host (t.ports p)) (hexpired : (t.ports p).intervalExpired = some false) :
    ((t.ports p).mdPdelayReqState = .waitingForPdelayResp →
      ((Enters (fun fuel => processRxPdelayResp fuel host clock t p rx)
            .waitingForPdelayRespFollowUp ↔ Echoes (t.ports p).pdelayReq rx.octets) ↔
          TreatedRightly t p rx.octets) ∧
      ((t.ports p).rcvdPdelayRespFollowUp →
        ((Enters (fun fuel => processRxPdelayResp fuel host clock t p rx)
              .waitingForPdelayIntervalTimer →
            Echoes (t.ports p).pdelayReq (t.ports p).rcvdPdelayRespFollowUpPtr.octets) ↔
          (Operating t p → Accepts p (t.ports p) rx.octets →
            Accepts p (t.ports p) (t.ports p).rcvdPdelayRespFollowUpPtr.octets →
            (t.ports p).usPortNumber = p.toUInt16 ∧ (t.ports p).pdelayReqSequenceId = 0)))) ∧
    ((t.ports p).mdPdelayReqState = .waitingForPdelayRespFollowUp →
      (t.ports p).rcvdPdelayResp = false →
      ((Enters (fun fuel => processRxPdelayRespFup fuel host clock t p rx)
            .waitingForPdelayIntervalTimer ↔ Echoes (t.ports p).pdelayReq rx.octets) ↔
          TreatedRightly t p rx.octets)) := by
  have hnotResp : ¬ Operating t p → ∀ {s}, s ≠ .notEnabled →
      ¬ Enters (fun fuel => processRxPdelayResp fuel host clock t p rx) s := fun hop _ hs =>
    not_enters_of_not_operating (not_operating_modify hop rfl) hs
  refine ⟨fun hstate => ⟨?_, fun hfup => ?_⟩, fun hstate hresp => ?_⟩
  · exact enters_iff_echoes_iff hout (fun hop => (enters_resp hop hstate hexpired).1)
      fun hop => hnotResp hop nofun
  · constructor
    · -- an early follow-up that is taken up is an echo
      intro h hop haccepts haccepts'
      have hechoes := h ((enters_resp hop hstate hexpired).2.mpr ⟨haccepts, hfup, haccepts'⟩)
      obtain ⟨hport, hseq, -, -⟩ := agree_of_accepts_of_echoes hout haccepts' hechoes
      exact ⟨hport, hseq⟩
    · intro h henters
      by_cases hop : Operating t p
      · obtain ⟨haccepts, -, haccepts'⟩ := (enters_resp hop hstate hexpired).2.mp henters
        obtain ⟨hport, hseq⟩ := h hop haccepts haccepts'
        exact echoes_of_accepts hout hport hseq haccepts'
      · exact absurd henters (hnotResp hop nofun)
  · exact enters_iff_echoes_iff hout (fun hop => enters_fup hop hstate hexpired hresp)
      fun hop => not_enters_of_not_operating (not_operating_modify hop rfl) nofun

/-! A port that has sent its first request, and the response that echoes it. -/

/-- Port 8 waits for the response to its first request. -/
def firstRequest : PdelaySystem :=
  mdPdelayReqSetState bigEndianHost atBoot
    (mdPdelayReqSetState bigEndianHost atBoot
      ⟨freshPort, clockIdentityOf exampleMac, delayMechanismP2P⟩ 8 .initialSendPdelayReq)
    8 .waitingForPdelayResp

/-- A response to the request, with the control field and the interval that such a frame has. -/
def responseTo (request : Mem) : Mem := fun k =>
  if 44 ≤ k then request (k - 24) else if k = 32 then 0x05 else if k = 33 then 0x7F else request k

instance : Decidable (Accepts p pp m) := inferInstanceAs (Decidable (_ ∧ _))

instance : Decidable (Echoes request m) := inferInstanceAs (Decidable (_ ∧ _))

theorem firstRequest_outstanding : Outstanding bigEndianHost (firstRequest.ports 8) := ⟨_, rfl⟩

theorem pdelay_echo_iff_firstRequest :
    (Enters (fun fuel => processRxPdelayResp fuel bigEndianHost atBoot firstRequest 8
          ⟨responseTo (firstRequest.ports 8).pdelayReq, 1⟩) .waitingForPdelayRespFollowUp ↔
        Echoes (firstRequest.ports 8).pdelayReq (responseTo (firstRequest.ports 8).pdelayReq)) ↔
      TreatedRightly firstRequest 8 (responseTo (firstRequest.ports 8).pdelayReq) :=
  ((pdelay_echo_iff bigEndianHost atBoot firstRequest 8
    ⟨responseTo (firstRequest.ports 8).pdelayReq, 1⟩ firstRequest_outstanding
    rfl).1 rfl).1

/-- **An echo is not accepted.** -/
theorem echo_not_accepted :
    (firstRequest.ports 8).mdPdelayReqState = .waitingForPdelayResp ∧
      (firstRequest.ports 8).intervalExpired = some false ∧
      Echoes (firstRequest.ports 8).pdelayReq (responseTo (firstRequest.ports 8).pdelayReq) ∧
      ¬ Enters (fun fuel => processRxPdelayResp fuel bigEndianHost atBoot firstRequest 8
          ⟨responseTo (firstRequest.ports 8).pdelayReq, 1⟩) .waitingForPdelayRespFollowUp := by
  refine ⟨rfl, rfl, by decide +kernel, ?_⟩
  rw [(enters_resp ⟨rfl, rfl⟩ rfl rfl).1]
  decide +kernel

end Gptp
