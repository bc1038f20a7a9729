/-
The pace of Announce and Sync messages on a master port.

A tick is counted once for each master port, and a message is sent when the count comes to the
interval.  So the counts run through the residues of the interval (`PacedTurn`), and the number of
messages in any number of ticks is a quotient (`master_pacing`).

* `transmitTurns_paced` — the loop that sends counts the tick once for each port;
* `vtssGptpTick_paced` — and so does a tick, which leaves nothing to be counted twice;
* `master_pacing` — in a run of ticks, with frames received between them.
-/
import AvbSwitch.InformationAgeing
import AvbSwitch.SignaledIntervals

open Octets Runs

namespace Gptp

variable {n : ℕ} {host : Host} {env : TickEnv n} {clock : Clock} {s s' u : GptpModule n}
  {i p : Fin n} {platform : Platform} {input : ModuleInput n} {a b c d l : ℕ}
  {inputs : List (ModuleInput n)}

/-! ### Counts and quotients -/

/-- What is left of a count that is set back at `b`, and how often it is set back. -/
theorem div_add_mod_div (hb : 0 < b) : (a + c) / b = a / b + (a % b + c) / b := by
  have ha := Nat.div_add_mod a b
  rw [← Nat.mul_add_div hb, ← Nat.add_assoc, ha]

theorem toNat_shiftedOne (hl : l < 31) : (shiftedOne l).toNat = 2 ^ l := by
  have hlt : 2 ^ l < 2 ^ 32 := Nat.pow_lt_pow_right (by omega) (by omega)
  rw [shiftedOne, if_pos (Int.natCast_nonneg l), Int.toNat_natCast, Nat.one_shiftLeft,
    UInt32.toNat_ofNat', Nat.mod_eq_of_lt hlt]

/-- One is added to a count below the interval without an overflow. -/
theorem toNat_add_one {w : UInt32} (hl : l < 31) (hw : w.toNat < 2 ^ l) :
    (w + 1).toNat = w.toNat + 1 := by
  have hlt : 2 ^ l < 2 ^ 32 := Nat.pow_lt_pow_right (by omega) (by omega)
  rw [UInt32.toNat_add]
  exact Nat.mod_eq_of_lt (by rw [UInt32.toNat_one]; omega)

/-- The interval has passed when the count comes to it. -/
theorem interval_le_iff {w : UInt32} (hl : l < 31) (hw : w.toNat < 2 ^ l) :
    UInt32.ofInt (signedShift 1 l) ≤ w + 1 ↔ w.toNat + 1 = 2 ^ l := by
  rw [UInt32.le_iff_toNat_le, signedShift_one, toNat_shiftedOne hl, toNat_add_one hl hw]
  omega

/-- What becomes of a count: it is set back when it has come to the interval. -/
def countAfter (interval counter : UInt32) : UInt32 := if interval ≤ counter then 0 else counter

/-- So many messages are sent then. -/
def sentAt (interval counter : UInt32) : ℕ := if interval ≤ counter then 1 else 0

/-- The count and the messages are the rest and the quotient. -/
theorem countAfter_paced {w : UInt32} (hl : l < 31) (hw : w.toNat < 2 ^ l) :
    (countAfter (UInt32.ofInt (signedShift 1 l)) (w + 1)).toNat = (w.toNat + 1) % 2 ^ l ∧
      sentAt (UInt32.ofInt (signedShift 1 l)) (w + 1) = (w.toNat + 1) / 2 ^ l := by
  rw [countAfter, sentAt]
  by_cases hdue : w.toNat + 1 = 2 ^ l
  · rw [if_pos ((interval_le_iff hl hw).mpr hdue), if_pos ((interval_le_iff hl hw).mpr hdue), hdue]
    exact ⟨(Nat.mod_self _).symm, (Nat.div_self (Nat.two_pow_pos l)).symm⟩
  · have hnot := mt (interval_le_iff hl hw).mp hdue
    have hlt : w.toNat + 1 < 2 ^ l := by omega
    rw [if_neg hnot, if_neg hnot, toNat_add_one hl hw]
    exact ⟨(Nat.mod_eq_of_lt hlt).symm, (Nat.div_eq_of_lt hlt).symm⟩

/-! ### What is sent -/

def Transmission.isAnnounceOf (p : Fin n) : Transmission n → Bool
  | .announce q _ => q = p
  | .sync _ _ => false

def Transmission.isSyncOf (p : Fin n) : Transmission n → Bool
  | .announce _ _ => false
  | .sync q _ => q = p

/-- So many Announce and Sync messages are sent on port `p`. -/
def SendsOn (p : Fin n) (s s' : GptpModule n) (announces syncs : ℕ) : Prop :=
  ∃ new, s'.sent = s.sent ++ new ∧ new.countP (Transmission.isAnnounceOf p) = announces ∧
    new.countP (Transmission.isSyncOf p) = syncs

theorem SendsOn.none (h : s'.sent = s.sent) : SendsOn p s s' 0 0 :=
  ⟨[], by rw [h, List.append_nil], rfl, rfl⟩

theorem SendsOn.trans (h : SendsOn p s u a b) (h' : SendsOn p u s' c d) :
    SendsOn p s s' (a + c) (b + d) := by
  obtain ⟨new, hsent, rfl, rfl⟩ := h
  obtain ⟨new', hsent', rfl, rfl⟩ := h'
  exact ⟨new ++ new', by rw [hsent', hsent, List.append_assoc], List.countP_append,
    List.countP_append⟩

theorem transmitAnnounce_sends (h : s.transmitAnnounce host clock i = some s') :
    SendsOn p s s' (if i = p then 1 else 0) 0 := by
  obtain ⟨tx, -, rfl⟩ := Option.map_eq_some_iff.mp h
  refine ⟨_, rfl, ?_, ?_⟩
  · simp [Transmission.isAnnounceOf]
  · simp [Transmission.isSyncOf]

theorem transmitSync_sends :
    SendsOn p s (s.transmitSync host clock i) 0 (if i = p then 1 else 0) := by
  refine ⟨_, rfl, ?_, ?_⟩
  · simp [Transmission.isAnnounceOf]
  · simp [Transmission.isSyncOf]

/-! ### The turns of the loop -/

/-- What is counted for port `p` stays, and nothing is sent there. -/
structure KeepsPace (p : Fin n) (s s' : GptpModule n) : Prop where
  announceCounter : s'.announceCounter p = s.announceCounter p
  syncCounter : s'.syncCounter p = s.syncCounter p
  sent : SendsOn p s s' 0 0

theorem KeepsPace.refl : KeepsPace p s s := ⟨rfl, rfl, .none rfl⟩

theorem KeepsPace.trans (h : KeepsPace p s u) (h' : KeepsPace p u s') : KeepsPace p s s' :=
  ⟨h'.announceCounter.trans h.announceCounter, h'.syncCounter.trans h.syncCounter,
    h.sent.trans h'.sent⟩

/-- The port is a master, with these intervals. -/
structure MasterAt (announce sync : ℕ) (pp : Port) : Prop where
  role : pp.selectedRole = .master
  announceInterval : pp.currentLogAnnounceInterval.toInt = announce
  syncInterval : pp.currentLogSyncInterval.toNat = sync

theorem MasterAt.announceIntervalTicks {pp : Port} (h : MasterAt a b pp) :
    pp.announceIntervalTicks = signedShift 1 a := by
  rw [Port.announceIntervalTicks, h.announceInterval]
  rfl

theorem MasterAt.syncIntervalTicks {pp : Port} (h : MasterAt a b pp) :
    pp.syncIntervalTicks = signedShift 1 b := by
  rw [Port.syncIntervalTicks, h.syncInterval]
  rfl

/-- The tick is counted for port `p`. -/
structure PacedTurn (p : Fin n) (announce sync : ℕ) (s s' : GptpModule n) : Prop where
  announceCounter : (s'.announceCounter p).toNat = ((s.announceCounter p).toNat + 1) % 2 ^ announce
  syncCounter : (s'.syncCounter p).toNat = ((s.syncCounter p).toNat + 1) % 2 ^ sync
  sent : SendsOn p s s' (((s.announceCounter p).toNat + 1) / 2 ^ announce)
    (((s.syncCounter p).toNat + 1) / 2 ^ sync)

/-- The counts are below the intervals. -/
structure Counting (p : Fin n) (announce sync : ℕ) (s : GptpModule n) : Prop where
  announceCounter : (s.announceCounter p).toNat < 2 ^ announce
  syncCounter : (s.syncCounter p).toNat < 2 ^ sync

/-- What the Announce messages of a turn change. -/
theorem announceTurn_counted {ticks : UInt32} (h : announceTurn host clock ticks s i = some s') :
    let interval := UInt32.ofInt (s.system.gptp.ports i).announceIntervalTicks
    let counter := s.announceCounter i + ticks
    s'.announceCounter = Function.update s.announceCounter i (countAfter interval counter) ∧
      s'.syncCounter = s.syncCounter ∧ s'.timerTicks = s.timerTicks ∧
      SendsOn p s s' (if i = p then sentAt interval counter else 0) 0 := by
  intro interval counter
  rw [announceTurn] at h
  dsimp only at h
  split at h
  case isTrue hle =>
    have hsends := transmitAnnounce_sends (p := p) h
    obtain ⟨tx, -, rfl⟩ := Option.map_eq_some_iff.mp h
    rw [countAfter, sentAt, if_pos hle, if_pos hle]
    exact ⟨rfl, rfl, rfl, hsends⟩
  case isFalse hle =>
    obtain rfl := Option.some_inj.mp h
    rw [countAfter, sentAt, if_neg hle, if_neg hle, ite_self]
    exact ⟨rfl, rfl, rfl, .none rfl⟩

/-- What its Sync messages change. -/
theorem syncTurn_counted {ticks : UInt32} :
    let interval := UInt32.ofInt (s.system.gptp.ports i).syncIntervalTicks
    let counter := s.syncCounter i + ticks
    let s' := syncTurn host clock ticks s i
    s'.syncCounter = Function.update s.syncCounter i (countAfter interval counter) ∧
      s'.announceCounter = s.announceCounter ∧ s'.timerTicks = s.timerTicks ∧
      SendsOn p s s' 0 (if i = p then sentAt interval counter else 0) := by
  intro interval counter s'
  simp only [s', syncTurn]
  split
  case isTrue hle =>
    have hsends := @transmitSync_sends n host clock
      { s with syncCounter := Function.update s.syncCounter i 0 } i p
    rw [countAfter, sentAt, if_pos hle, if_pos hle]
    exact ⟨rfl, rfl, rfl, hsends⟩
  case isFalse hle =>
    rw [countAfter, sentAt, if_neg hle, if_neg hle, ite_self]
    exact ⟨rfl, rfl, rfl, .none rfl⟩

/-- Sending leaves a master what it is. -/
theorem SendsOnly.masterAt (h : SendsOnly s s') (hmaster : MasterAt a b (s.system.gptp.ports p)) :
    MasterAt a b (s'.system.gptp.ports p) := by
  obtain ⟨newInfo, hgptp⟩ := h.gptp
  rw [hgptp]
  exact ⟨hmaster.role, hmaster.announceInterval, hmaster.syncInterval⟩

theorem KeepsPace.paced (h : KeepsPace p s u) (h' : PacedTurn p a b u s') :
    PacedTurn p a b s s' := by
  obtain ⟨hannounce, hsync, hsent⟩ := h'
  rw [h.announceCounter] at hannounce hsent
  rw [h.syncCounter] at hsync hsent
  refine ⟨hannounce, hsync, ?_⟩
  have hboth := h.sent.trans hsent
  rwa [Nat.zero_add, Nat.zero_add] at hboth

theorem PacedTurn.keeps (h : PacedTurn p a b s u) (h' : KeepsPace p u s') :
    PacedTurn p a b s s' :=
  ⟨h'.announceCounter ▸ h.announceCounter, h'.syncCounter ▸ h.syncCounter, h.sent.trans h'.sent⟩

/-- The turn of another port. -/
theorem transmitTurn_keeps (hne : i ≠ p) {ticks : UInt32}
    (h : transmitTurn host env ticks s i = some s') : KeepsPace p s s' := by
  rw [transmitTurn] at h
  split at h
  case isFalse => exact Option.some_inj.mp h ▸ .refl
  case isTrue =>
    obtain ⟨u, hu, rfl⟩ := Option.map_eq_some_iff.mp h
    obtain ⟨hannounce, hkept, -, hsends⟩ := announceTurn_counted (p := p) hu
    obtain ⟨hsync, hkept', -, hsends'⟩ :=
      @syncTurn_counted n host (env.syncClock i) u i p ticks
    rw [if_neg hne] at hsends hsends'
    refine ⟨?_, ?_, hsends.trans hsends'⟩
    · rw [hkept', hannounce, Function.update_of_ne hne.symm]
    · rw [hsync, Function.update_of_ne hne.symm, hkept]

/-- The turn of the port itself. -/
theorem transmitTurn_paced (ha : a < 31) (hb : b < 31) (hcount : Counting p a b s)
    (hmaster : MasterAt a b (s.system.gptp.ports p))
    (h : transmitTurn host env 1 s p = some s') : PacedTurn p a b s s' := by
  rw [transmitTurn, if_pos hmaster.role] at h
  obtain ⟨u, hu, rfl⟩ := Option.map_eq_some_iff.mp h
  obtain ⟨hannounce, hkept, -, hsends⟩ := announceTurn_counted (p := p) hu
  obtain ⟨hsync, hkept', -, hsends'⟩ := @syncTurn_counted n host (env.syncClock p) u p p 1
  rw [hmaster.announceIntervalTicks] at hannounce hsends
  -- the Announce message leaves the other count, and the interval
  have hmaster' := (announceTurn_sendsOnly hu).masterAt hmaster
  rw [hmaster'.syncIntervalTicks, hkept] at hsync hsends'
  rw [if_pos rfl] at hsends hsends'
  obtain ⟨hmod, hdiv⟩ := countAfter_paced ha hcount.announceCounter
  obtain ⟨hmod', hdiv'⟩ := countAfter_paced hb hcount.syncCounter
  refine ⟨?_, ?_, ?_⟩
  · rw [hkept', hannounce, Function.update_self, hmod]
  · rw [hsync, Function.update_self, hmod']
  · have hboth := hsends.trans hsends'
    rwa [hdiv, hdiv', Nat.add_zero, Nat.zero_add] at hboth

theorem transmitTurns_keep {ports : List (Fin n)} {ticks : UInt32} (hp : p ∉ ports)
    (h : ports.foldlM (transmitTurn host env ticks) s = some s') : KeepsPace p s s' := by
  induction ports generalizing s with
  | nil => exact Option.some_inj.mp h ▸ .refl
  | cons i ports ih =>
    obtain ⟨hne, hp⟩ := not_or.mp (mt List.mem_cons.mpr hp)
    obtain ⟨u, hu, hrest⟩ := Option.bind_eq_some_iff.mp h
    exact (transmitTurn_keeps (Ne.symm hne) hu).trans (ih hp hrest)

/-- **The loop that sends** counts the tick once for each master port. -/
theorem transmitTurns_paced {ports : List (Fin n)} (ha : a < 31) (hb : b < 31)
    (hnodup : ports.Nodup) (hp : p ∈ ports) (hcount : Counting p a b s)
    (hmaster : MasterAt a b (s.system.gptp.ports p))
    (h : ports.foldlM (transmitTurn host env 1) s = some s') : PacedTurn p a b s s' := by
  induction ports generalizing s with
  | nil => exact absurd hp List.not_mem_nil
  | cons i ports ih =>
    obtain ⟨hi, hnodup⟩ := List.nodup_cons.mp hnodup
    obtain ⟨u, hu, hrest⟩ := Option.bind_eq_some_iff.mp h
    by_cases hip : i = p
    · subst hip
      exact (transmitTurn_paced ha hb hcount hmaster hu).keeps (transmitTurns_keep hi hrest)
    · have hkeeps := transmitTurn_keeps hip hu
      have hlater : p ∈ ports := (List.mem_cons.mp hp).resolve_left (Ne.symm hip)
      have hcount' : Counting p a b u :=
        ⟨hkeeps.announceCounter ▸ hcount.announceCounter, hkeeps.syncCounter ▸ hcount.syncCounter⟩
      exact hkeeps.paced
        (ih hnodup hlater hcount' ((transmitTurn_sendsOnly hu).masterAt hmaster) hrest)

/-! ### The tick -/

/-- The module is enabled, and no ticks and no work are left from before. -/
structure ReadyToTick (s : GptpModule n) : Prop where
  adminEnabled : s.adminEnabled = true
  timerTicks : s.timerTicks = 0
  currentSm : s.currentSm = false

theorem transmitTurn_timerTicks {ticks : UInt32} (h : transmitTurn host env ticks s i = some s') :
    s'.timerTicks = s.timerTicks := by
  rw [transmitTurn] at h
  split at h
  case isFalse => exact Option.some_inj.mp h ▸ rfl
  case isTrue =>
    obtain ⟨u, hu, rfl⟩ := Option.map_eq_some_iff.mp h
    exact (syncTurn_counted (p := i)).2.2.1.trans (announceTurn_counted (p := i) hu).2.2.1

theorem machineTurn_keeps (h : machineTurn env s i = some s') :
    KeepsPace p s s' ∧ s'.timerTicks = s.timerTicks := by
  obtain ⟨t, -, rfl⟩ := Option.map_eq_some_iff.mp h
  exact ⟨⟨rfl, rfl, .none rfl⟩, rfl⟩

/-- The loop that runs the machines sends nothing. -/
theorem machineTurns_keep {ports : List (Fin n)}
    (h : ports.foldlM (machineTurn env) s = some s') :
    KeepsPace p s s' ∧ s'.timerTicks = s.timerTicks := by
  have hrun : run (machineTurn env) s ports = some s' := h
  refine run_invariant (I := fun u => KeepsPace p s u ∧ u.timerTicks = s.timerTicks)
    (fun hI hstep => ?_) ⟨.refl, rfl⟩ hrun
  obtain ⟨hkeeps, hticks⟩ := machineTurn_keeps (p := p) hstep
  exact ⟨hI.1.trans hkeeps, hticks.trans hI.2⟩

/-- **A tick is counted once**, and nothing is left to be counted again. -/
theorem vtssGptpTick_paced (ha : a < 31) (hb : b < 31) (hready : ReadyToTick s)
    (hcount : Counting p a b s) (hmaster : MasterAt a b ((selectRoles s.system.gptp).ports p))
    (h : vtssGptpTick host env s = some s') : PacedTurn p a b s s' ∧ ReadyToTick s' := by
  obtain ⟨hadmin', -⟩ := vtssGptpTick_ticked hready.currentSm hready.adminEnabled h
  rw [vtssGptpTick_eq hready.currentSm, hready.timerTicks, moreWork] at h
  dsimp only at h
  rw [Bool.not_true, if_neg Bool.false_ne_true, if_pos hready.adminEnabled] at h
  obtain ⟨u, hu, h⟩ := Option.bind_eq_some_iff.mp h
  obtain ⟨v, hv, rfl⟩ := Option.map_eq_some_iff.mp h
  have hpaced : PacedTurn p a b
      { s.withGptp (selectRoles s.system.gptp) with timerTicks := 0, currentSm := true } u := by
    refine transmitTurns_paced ha hb (List.nodup_finRange n) (List.mem_finRange p) ?_ ?_ hu
    · exact ⟨hcount.announceCounter, hcount.syncCounter⟩
    · exact hmaster
  obtain ⟨hkeeps, hticks⟩ := machineTurns_keep (p := p) hv
  obtain ⟨hannounce, hsync, hsent⟩ := hpaced.keeps hkeeps
  refine ⟨⟨hannounce, hsync, hsent⟩, hadmin', hticks.trans ?_, rfl⟩
  have hrun : run (transmitTurn host env 1) _ (List.finRange n) = some u := hu
  exact run_invariant (I := fun u => u.timerTicks = 0)
    (fun hI hstep => (transmitTurn_timerTicks hstep).trans hI) rfl hrun

/-! ### Runs -/

/-- A received frame. -/
def ModuleInput.isReception : ModuleInput n → Bool
  | .processRxAnnounce _ _ | .processRxSync _ _ _ _ | .processRxFup _ _ _ _ |
    .delayReception _ _ => true
  | _ => false

/-- The number of messages that the ticks of a run send. -/
def sentByTicks (platform : Platform) (which : Transmission n → Bool) :
    GptpModule n → List (ModuleInput n) → ℕ
  | _, [] => 0
  | s, input :: inputs =>
    match moduleStep platform s input with
    | none => 0
    | some s' =>
      (if input.isTick then (s'.sent.drop s.sent.length).countP which else 0) +
        sentByTicks platform which s' inputs

/-- In each tick the port is a master with these intervals, when the loop comes to it. -/
def MasterInTicks (platform : Platform) (p : Fin n) (announce sync : ℕ) :
    GptpModule n → List (ModuleInput n) → Prop :=
  EachStep (moduleStep platform) fun s input => input.isTick = true →
    MasterAt announce sync ((selectRoles s.system.gptp).ports p)

/-- A received frame is not counted. -/
theorem reception_keeps (hreception : input.isReception = true) (hready : ReadyToTick s)
    (h : moduleStep platform s input = some s') :
    s'.announceCounter = s.announceCounter ∧ s'.syncCounter = s.syncCounter ∧ ReadyToTick s' := by
  obtain ⟨hadmin, hticks, hsm⟩ := hready
  cases input with
  | processRxAnnounce q m | processRxFup q clock locals m =>
    obtain ⟨u, -, rfl⟩ := Option.map_eq_some_iff.mp h
    exact ⟨rfl, rfl, hadmin, hticks, hsm⟩
  | processRxSync q clock locals m | delayReception q verdict =>
    obtain rfl := Option.some_inj.mp h
    exact ⟨rfl, rfl, hadmin, hticks, hsm⟩
  | _ => cases hreception

/-- **The pace of Announce and Sync messages.**  From a state that is ready, in a run of ticks with
frames received between them, in which the port is a master with intervals of `2 ^ announce` and
`2 ^ sync` ticks whenever the loop comes to it, the ticks send a message for each interval that has
passed, with what was counted before. -/
theorem master_pacing (platform : Platform) (p : Fin n) (announce sync : ℕ) (ha : announce < 31)
    (hb : sync < 31) (s s' : GptpModule n) (inputs : List (ModuleInput n))
    (hready : ReadyToTick s) (hcount : Counting p announce sync s)
    (hinputs : ∀ input ∈ inputs, input.isTick = true ∨ input.isReception = true)
    (hmaster : MasterInTicks platform p announce sync s inputs)
    (hrun : run (moduleStep platform) s inputs = some s') :
    sentByTicks platform (Transmission.isAnnounceOf p) s inputs =
        ((s.announceCounter p).toNat + inputs.countP ModuleInput.isTick) / 2 ^ announce ∧
      sentByTicks platform (Transmission.isSyncOf p) s inputs =
        ((s.syncCounter p).toNat + inputs.countP ModuleInput.isTick) / 2 ^ sync := by
  induction inputs generalizing s with
  | nil =>
    exact ⟨(Nat.div_eq_of_lt hcount.announceCounter).symm,
      (Nat.div_eq_of_lt hcount.syncCounter).symm⟩
  | cons input inputs ih =>
    obtain ⟨u, hu, hrest⟩ := run_cons_eq_some.mp hrun
    obtain ⟨hfirst, hlater⟩ := hmaster u hu
    rw [List.forall_mem_cons] at hinputs
    rw [sentByTicks, sentByTicks, hu]
    dsimp only
    by_cases htick : input.isTick = true
    · -- a tick: what is left of the count goes on
      cases input with
      | vtssGptpTick env =>
        obtain ⟨⟨hannounce, hsync, new, hsent, hnew, hnew'⟩, hready'⟩ :=
          vtssGptpTick_paced ha hb hready hcount (hfirst htick) hu
        have hcount' : Counting p announce sync u :=
          ⟨by rw [hannounce]; exact Nat.mod_lt _ (Nat.two_pow_pos _),
            by rw [hsync]; exact Nat.mod_lt _ (Nat.two_pow_pos _)⟩
        obtain ⟨hannounces, hsyncs⟩ := ih u hready' hcount' hinputs.2 hlater hrest
        rw [if_pos htick, if_pos htick, hsent, List.drop_left, hnew, hnew', hannounces, hsyncs,
          hannounce, hsync, List.countP_cons_of_pos htick, ← div_add_mod_div (Nat.two_pow_pos _),
          ← div_add_mod_div (Nat.two_pow_pos _)]
        exact ⟨by rw [Nat.add_assoc, Nat.add_comm 1], by rw [Nat.add_assoc, Nat.add_comm 1]⟩
      | _ => cases htick
    · -- a frame: nothing is counted
      obtain ⟨hannounce, hsync, hready'⟩ :=
        reception_keeps (hinputs.1.resolve_left htick) hready hu
      have hcount' : Counting p announce sync u :=
        ⟨by rw [hannounce]; exact hcount.announceCounter,
          by rw [hsync]; exact hcount.syncCounter⟩
      obtain ⟨hannounces, hsyncs⟩ := ih u hready' hcount' hinputs.2 hlater hrest
      rw [if_neg htick, if_neg htick, Nat.zero_add, Nat.zero_add,
        List.countP_cons_of_neg htick, hannounces, hsyncs, hannounce, hsync]
      exact ⟨rfl, rfl⟩

/-! ### Two ticks -/

/-- Two ticks, with the message of another system between them. -/
def twoTicks : List (ModuleInput 8) :=
  [.vtssGptpTick capableTick, .processRxAnnounce firstPort (announceFrom 250 1),
    .vtssGptpTick capableTick]

/-- The first port is a master in both of them, with intervals of one and of eight ticks. -/
theorem twoTicks_run : ∃ s s',
    run (moduleStep examplePlatform) exampleModule comesUpAsMaster = some s ∧
      run (moduleStep examplePlatform) s twoTicks = some s' ∧ ReadyToTick s ∧
      Counting firstPort 0 3 s ∧ MasterInTicks examplePlatform firstPort 0 3 s twoTicks := by
  have hrun : ((run (moduleStep examplePlatform) exampleModule comesUpAsMaster).bind fun s =>
      (vtssGptpTick examplePlatform.host capableTick s).bind fun u =>
        (moduleStep examplePlatform u (.processRxAnnounce firstPort (announceFrom 250 1))).bind
          fun v => (vtssGptpTick examplePlatform.host capableTick v).map fun _ =>
            decide ((s.adminEnabled = true ∧ s.timerTicks = 0 ∧ s.currentSm = false) ∧
              ((s.announceCounter firstPort).toNat < 2 ^ 0 ∧
                (s.syncCounter firstPort).toNat < 2 ^ 3) ∧
              ∀ w ∈ [s, v],
                ((selectRoles w.system.gptp).ports firstPort).selectedRole = .master ∧
                ((selectRoles w.system.gptp).ports firstPort).currentLogAnnounceInterval.toInt = 0 ∧
                ((selectRoles w.system.gptp).ports firstPort).currentLogSyncInterval.toNat = 3)) =
      some true := by
    decide +kernel
  obtain ⟨s, hs, h⟩ := Option.bind_eq_some_iff.mp hrun
  obtain ⟨u, hu, h⟩ := Option.bind_eq_some_iff.mp h
  obtain ⟨v, hv, h⟩ := Option.bind_eq_some_iff.mp h
  obtain ⟨s', hs', h⟩ := Option.map_eq_some_iff.mp h
  obtain ⟨⟨hadmin, hticks, hsm⟩, ⟨hannounce, hsync⟩, hmaster⟩ := of_decide_eq_true h
  obtain ⟨hrole, hannounceInterval, hsyncInterval⟩ := hmaster s (List.mem_cons_self ..)
  obtain ⟨hrole', hannounceInterval', hsyncInterval'⟩ := hmaster v (by simp)
  have hrest : run (moduleStep examplePlatform) s twoTicks = some s' :=
    run_cons_eq_some.mpr ⟨u, hu, run_cons_eq_some.mpr ⟨v, hv, run_singleton.trans hs'⟩⟩
  refine ⟨s, s', hs, hrest, ⟨hadmin, hticks, hsm⟩, ⟨hannounce, hsync⟩, ?_⟩
  rw [MasterInTicks, twoTicks, eachStep_cons hu, eachStep_cons hv, eachStep_cons hs']
  exact ⟨fun _ => ⟨hrole, hannounceInterval, hsyncInterval⟩, fun hframe => absurd hframe (by simp
    [ModuleInput.isTick]), fun _ => ⟨hrole', hannounceInterval', hsyncInterval'⟩, trivial⟩

/-- An Announce message is sent in both, and a Sync message if the count has come that far. -/
theorem master_pacing_two : ∃ s s',
    run (moduleStep examplePlatform) exampleModule comesUpAsMaster = some s ∧
      run (moduleStep examplePlatform) s twoTicks = some s' ∧
      sentByTicks examplePlatform (Transmission.isAnnounceOf firstPort) s twoTicks =
        ((s.announceCounter firstPort).toNat + 2) / 2 ^ 0 ∧
      sentByTicks examplePlatform (Transmission.isSyncOf firstPort) s twoTicks =
        ((s.syncCounter firstPort).toNat + 2) / 2 ^ 3 := by
  obtain ⟨s, s', hs, hrun, hready, hcount, hmaster⟩ := twoTicks_run
  exact ⟨s, s', hs, hrun, master_pacing examplePlatform firstPort 0 3 (by decide) (by decide) s s'
    twoTicks hready hcount (by simp [twoTicks, ModuleInput.isTick, ModuleInput.isReception]) hmaster
    hrun⟩

end Gptp
