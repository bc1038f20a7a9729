/-
The leave timer and the LeaveAll timer of a participant by themselves.

A history (`TimerHistory`) is the two timers and notes of what has become of them: starts,
polls, ticks and expiries.  `TimersKept` says of the notes what the timers are for: each start
leaves the other timer alone, and is followed by one expiry, at the first poll after the
timer's period.

The operations are those of the source.  The start of the leave timer sets the timeout of the
other timer, so that its own is always 0 and it expires at the next poll; a tick stops the
LeaveAll timer when its timeout comes to 0, so that no poll finds it expired.
`TimerHistory.Inv` is what follows from this for every history, and the theorems
`startLeave_kept`, `startLeaveall_kept`, `poll_kept` and `tick_kept` say when an operation
keeps the notes in order.
-/
import AvbSwitch.MsrpService

namespace Msrp

/-! ### Notes -/

inductive TimerName
  | leave | leaveall
  deriving DecidableEq, Repr

/-- The ticks from the start of a timer to its expiry. -/
def TimerName.period : TimerName → ℕ
  | .leave => mrpLeavetimerPeriod.toNat
  | .leaveall => mrpLeaveallTimerPeriod.toNat

/-- What is noted of the timers. -/
inductive TimerNote
  /-- a timer is started; the other timer before and after -/
  | start (w : TimerName) (before after : TimersContext)
  | poll
  | tick
  | expired (w : TimerName)
  deriving DecidableEq, Repr

def TimerNote.isExpired : TimerNote → Bool
  | .expired _ => true
  | _ => false

def ticks (l : List TimerNote) : ℕ := l.count .tick

/-- The timer is not started in these notes. -/
def NoStart (w : TimerName) (l : List TimerNote) : Prop := ∀ b a, .start w b a ∉ l

/-- What is noted after the start of a timer is in order, as far as it belongs to this start: there
is no expiry before the period is over, and not more than one; a poll after the period finds the
timer expired, unless it has expired before; and the leave timer is not started again before it
has expired. -/
structure Expires (w : TimerName) (post : List TimerNote) : Prop where
  due : ∀ pre rest, post = pre ++ .expired w :: rest → NoStart w pre →
    w.period ≤ ticks pre ∧ .expired w ∉ pre
  met : ∀ pre rest, post = pre ++ .poll :: rest → NoStart w pre → w.period ≤ ticks pre →
    .expired w ∈ pre ++ rest.takeWhile TimerNote.isExpired
  restart : w = .leave → ∀ pre b a rest, post = pre ++ .start .leave b a :: rest →
    .expired .leave ∈ pre

/-- Something holds of each start of a timer: which timer, the other timer before and after, and
the notes that follow. -/
def AtStarts (Q : TimerName → TimersContext → TimersContext → List TimerNote → Prop)
    (l : List TimerNote) : Prop :=
  ∀ pre w b a post, l = pre ++ .start w b a :: post → Q w b a post

/-- No expiry is lost or mistimed, and no start touches the other timer. -/
def TimersKept (l : List TimerNote) : Prop := AtStarts (fun w b a post => b = a ∧ Expires w post) l

variable {w : TimerName} {l post : List TimerNote} {x : TimerNote} {b a : TimersContext}

/-- How a list that has been appended to is taken apart at one of its members. -/
theorem concat_eq_append_cons {α : Type*} {l pre post : List α} {x s : α} :
    l ++ [x] = pre ++ s :: post ↔
      (l = pre ∧ x = s ∧ post = []) ∨ ∃ post', post = post' ++ [x] ∧ l = pre ++ s :: post' := by
  constructor
  · intro h
    rcases List.eq_nil_or_concat post with rfl | ⟨post', y, rfl⟩
    · obtain ⟨hl, hx⟩ := List.append_inj' h rfl
      exact Or.inl ⟨hl, by simpa using hx, rfl⟩
    · rw [List.concat_eq_append, ← List.cons_append, ← List.append_assoc] at h
      obtain ⟨hl, hx⟩ := List.append_inj' h rfl
      have hxy : x = y := by simpa using hx
      exact Or.inr ⟨post', by rw [hxy, List.concat_eq_append], hl⟩
  · rintro (⟨rfl, rfl, rfl⟩ | ⟨post', rfl, rfl⟩)
    · rfl
    · rw [List.append_assoc, List.cons_append]

theorem atStarts_concat
    {Q : TimerName → TimersContext → TimersContext → List TimerNote → Prop} :
    AtStarts Q (l ++ [x]) ↔ AtStarts (fun w b a post => Q w b a (post ++ [x])) l ∧
      ∀ w b a, x = .start w b a → Q w b a [] := by
  constructor
  · intro h
    refine ⟨fun pre w b a post hl => ?_, fun w b a hx => ?_⟩
    · exact h pre w b a (post ++ [x]) (concat_eq_append_cons.mpr (Or.inr ⟨post, rfl, hl⟩))
    · exact h l w b a [] (concat_eq_append_cons.mpr (Or.inl ⟨rfl, hx, rfl⟩))
  · rintro ⟨hold, hnew⟩ pre w b a post hl
    rcases concat_eq_append_cons.mp hl with ⟨-, hx, rfl⟩ | ⟨post', rfl, hl'⟩
    · exact hnew w b a hx
    · exact hold pre w b a post' hl'

theorem takeWhile_concat {α : Type*} {f : α → Bool} {y : α} (hy : f y = false) :
    ∀ l : List α, (l ++ [y]).takeWhile f = l.takeWhile f := by
  intro l
  induction l with
  | nil => simp [hy]
  | cons z l ih => rw [List.cons_append, List.takeWhile_cons, List.takeWhile_cons, ih]

/-- One more note that is not an expiry. -/
theorem expires_concat (hx : x.isExpired = false) :
    Expires w (post ++ [x]) ↔ Expires w post ∧
      (x = .poll → NoStart w post → w.period ≤ ticks post → .expired w ∈ post) ∧
      (w = .leave → ∀ b a, x = .start .leave b a → .expired .leave ∈ post) := by
  have hne : ∀ w', x ≠ .expired w' := by
    rintro w' rfl
    exact Bool.false_ne_true hx.symm
  constructor
  · rintro ⟨hdue, hmet, hrestart⟩
    refine ⟨⟨fun pre rest h => ?_, fun pre rest h hno hper => ?_, fun hw pre b a rest h => ?_⟩,
      fun hpoll hno hper => ?_, fun hw b a hstart => ?_⟩
    · exact hdue pre (rest ++ [x]) (concat_eq_append_cons.mpr (Or.inr ⟨rest, rfl, h⟩))
    · have hmem := hmet pre (rest ++ [x]) (concat_eq_append_cons.mpr (Or.inr ⟨rest, rfl, h⟩)) hno hper
      rwa [takeWhile_concat hx] at hmem
    · exact hrestart hw pre b a (rest ++ [x]) (concat_eq_append_cons.mpr (Or.inr ⟨rest, rfl, h⟩))
    · have hmem := hmet post [] (concat_eq_append_cons.mpr (Or.inl ⟨rfl, hpoll, rfl⟩)) hno hper
      simpa using hmem
    · exact hrestart hw post b a [] (concat_eq_append_cons.mpr (Or.inl ⟨rfl, hstart, rfl⟩))
  · rintro ⟨⟨hdue, hmet, hrestart⟩, hpoll, hstart⟩
    refine ⟨fun pre rest h => ?_, fun pre rest h hno hper => ?_, fun hw pre b a rest h => ?_⟩
    · rcases concat_eq_append_cons.mp h with ⟨-, hx', -⟩ | ⟨rest', -, h'⟩
      · exact absurd hx' (hne w)
      · exact hdue pre rest' h'
    · rcases concat_eq_append_cons.mp h with ⟨rfl, hx', rfl⟩ | ⟨rest', rfl, h'⟩
      · simpa using hpoll hx' hno hper
      · rw [takeWhile_concat hx]
        exact hmet pre rest' h' hno hper
    · rcases concat_eq_append_cons.mp h with ⟨rfl, hx', -⟩ | ⟨rest', -, h'⟩
      · exact hstart hw b a hx'
      · exact hrestart hw pre b a rest' h'

theorem expires_nil : Expires w [] := by
  refine ⟨fun pre rest h => ?_, fun pre rest h => ?_, fun _ pre b a rest h => ?_⟩
  all_goals simp at h

/-- A timer that is started at all has a last start. -/
theorem exists_last_start (h : ¬ NoStart w l) :
    ∃ pre b a post, l = pre ++ .start w b a :: post ∧ NoStart w post := by
  induction l with
  | nil => exact absurd (fun _ _ => List.not_mem_nil) h
  | cons y l ih =>
    by_cases hl : NoStart w l
    · have hy : ∃ b a, y = .start w b a := by
        by_contra hno
        refine h fun b a hmem => ?_
        rcases List.mem_cons.mp hmem with hy | hmem
        · exact hno ⟨b, a, hy.symm⟩
        · exact hl b a hmem
      obtain ⟨b, a, rfl⟩ := hy
      exact ⟨[], b, a, l, rfl, hl⟩
    · obtain ⟨pre, b, a, post, rfl, hpost⟩ := ih hl
      exact ⟨y :: pre, b, a, post, rfl, hpost⟩

theorem noStart_concat : NoStart w (l ++ [x]) ↔ NoStart w l ∧ ∀ b a, x ≠ .start w b a := by
  simp only [NoStart, List.mem_append, List.mem_singleton, not_or, forall_and, ne_eq, eq_comm]

theorem ticks_concat : ticks (l ++ [x]) = ticks l + if x = .tick then 1 else 0 := by
  rw [ticks, List.count_append, List.count_singleton]
  simp only [beq_iff_eq]
  rfl

/-- The leave timer expires before its period is over. -/
def Early (post : List TimerNote) : Prop :=
  ∃ pre rest, post = pre ++ .expired .leave :: rest ∧ NoStart .leave pre ∧
    ticks pre < TimerName.leave.period

/-- The notes after a start of the leave timer that is still running. -/
structure Untouched (post : List TimerNote) : Prop where
  start : NoStart .leave post
  poll : .poll ∉ post
  tick : .tick ∉ post

theorem Early.concat (h : Early post) : Early (post ++ [x]) := by
  obtain ⟨pre, rest, rfl, hno, hticks⟩ := h
  exact ⟨pre, rest ++ [x], by simp, hno, hticks⟩

/-- Once the leave timer has expired early the notes are never in order again. -/
theorem Expires.not_early (h : Expires .leave post) : ¬ Early post := by
  rintro ⟨pre, rest, rfl, hno, hticks⟩
  have hdue := (h.due pre rest rfl hno).1
  omega

theorem Untouched.nil : Untouched [] :=
  ⟨fun _ _ => List.not_mem_nil, List.not_mem_nil, List.not_mem_nil⟩

theorem Untouched.concat (h : Untouched post) (hstart : ∀ b a, x ≠ .start .leave b a)
    (hpoll : x ≠ .poll) (htick : x ≠ .tick) : Untouched (post ++ [x]) where
  start := noStart_concat.mpr ⟨h.start, hstart⟩
  poll := by simpa using ⟨h.poll, hpoll.symm⟩
  tick := by simpa using ⟨h.tick, htick.symm⟩

theorem Untouched.ticks_eq (h : Untouched post) : ticks post = 0 := List.count_eq_zero.mpr h.tick

/-- After a start the leave timer expires at the first poll. -/
theorem Untouched.early (h : Untouched post) : Early (post ++ [.poll] ++ [.expired .leave]) := by
  refine ⟨post ++ [.poll], [], rfl, noStart_concat.mpr ⟨h.start, nofun⟩, ?_⟩
  rw [ticks_concat, h.ticks_eq]
  decide

theorem TimersKept.untouched (hkept : TimersKept l) : ∀ b a, .start .leave b a ∈ l → b = a := by
  intro b a hmem
  obtain ⟨pre, post, hl⟩ := List.append_of_mem hmem
  exact (hkept pre .leave b a post hl).1

/-- One more note that is not an expiry. -/
theorem timersKept_concat (hx : x.isExpired = false) :
    TimersKept (l ++ [x]) ↔ TimersKept l ∧
      (x = .poll → AtStarts (fun w _ _ post => NoStart w post → w.period ≤ ticks post →
        .expired w ∈ post) l) ∧
      (∀ b a, x = .start .leave b a → AtStarts (fun w _ _ post => w = .leave →
        .expired .leave ∈ post) l) ∧ ∀ w b a, x = .start w b a → b = a := by
  rw [TimersKept, atStarts_concat]
  constructor
  · rintro ⟨hold, hnew⟩
    have hsplit := fun pre w b a post hl => (expires_concat hx).mp (hold pre w b a post hl).2
    refine ⟨fun pre w b a post hl => ?_, fun hpoll pre w b a post hl => ?_,
      fun b' a' hstart pre w b a post hl hw => ?_, fun w b a hstart => (hnew w b a hstart).1⟩
    · exact ⟨(hold pre w b a post hl).1, (hsplit pre w b a post hl).1⟩
    · exact (hsplit pre w b a post hl).2.1 hpoll
    · exact (hsplit pre w b a post hl).2.2 hw b' a' hstart
  · rintro ⟨hkept, hpoll, hstart, hsame⟩
    refine ⟨fun pre w b a post hl => ?_, fun w b a hx' => ⟨hsame w b a hx', expires_nil⟩⟩
    refine ⟨(hkept pre w b a post hl).1, (expires_concat hx).mpr ⟨(hkept pre w b a post hl).2,
      fun hx' => hpoll hx' pre w b a post hl, fun hw b' a' hx' => ?_⟩⟩
    exact hstart b' a' hx' pre w b a post hl hw

/-! ### Histories -/

structure TimerHistory where
  leave : TimersContext
  leaveall : TimersContext
  notes : List TimerNote

namespace TimerHistory

/-- The timers as they are initialised. -/
def init : TimerHistory := ⟨⟨false, 0⟩, ⟨false, mrpLeaveallTimerPeriod⟩, []⟩

/-- `MRP_ACTION_START_LEAVE_TIMER`. -/
def startLeave (h : TimerHistory) : TimerHistory :=
  if h.leave.running = false then
    { leave := { h.leave with running := true }
      leaveall := { h.leaveall with timeout := mrpLeavetimerPeriod }
      notes := h.notes ++
        [.start .leave h.leaveall { h.leaveall with timeout := mrpLeavetimerPeriod }] }
  else h

/-- `MRP_ACTION_START_LEAVEALL_TIMER`. -/
def startLeaveall (h : TimerHistory) : TimerHistory :=
  { h with
    leaveall := ⟨true, mrpLeaveallTimerPeriod⟩
    notes := h.notes ++ [.start .leaveall h.leave h.leave] }

def pollLeave (h : TimerHistory) : TimerHistory :=
  if h.leave.running ∧ h.leave.timeout = 0 then
    { h with
      leave := { h.leave with running := false }
      notes := h.notes ++ [.expired .leave] }
  else h

def pollLeaveall (h : TimerHistory) : TimerHistory :=
  if h.leaveall.running ∧ h.leaveall.timeout = 0 then
    { h with notes := h.notes ++ [.expired .leaveall] }
  else h

/-- What `vtss_msrp_more_work` does about the timers of a port. -/
def poll (h : TimerHistory) : TimerHistory :=
  pollLeaveall (pollLeave { h with notes := h.notes ++ [.poll] })

/-- What `vtss_msrp_tick` does about them afterwards. -/
def tick (h : TimerHistory) : TimerHistory where
  leave := h.leave.countDown.stopAtZero
  leaveall := h.leaveall.countDown.stopAtZero
  notes := h.notes ++ [.tick]

/-- The LeaveAll timer after `k` ticks. -/
def leaveallAfter (k : ℕ) : TimersContext :=
  if k < TimerName.leaveall.period then ⟨true, mrpLeaveallTimerPeriod - k⟩ else ⟨false, 0⟩

/-- What holds of the histories that the operations lead to. -/
structure Inv (h : TimerHistory) : Prop where
  leave_timeout : h.leave.timeout = 0
  leaveall_timeout : h.leaveall.running = true → 0 < h.leaveall.timeout
  not_expired : .expired .leaveall ∉ h.notes
  /-- a start of the leave timer is the last thing that has happened, or it has expired early -/
  leave_started : AtStarts (fun w _ _ post => w = .leave →
    (h.leave.running = true ∧ Untouched post) ∨ Early post) h.notes
  leave_running : h.leave.running = true →
    ∃ pre b a post, h.notes = pre ++ .start .leave b a :: post ∧ Untouched post
  /-- as long as no start of the leave timer has touched it, the LeaveAll timer is counted down -/
  leaveall_counted : (∀ b a, .start .leave b a ∈ h.notes → b = a) →
    (NoStart .leaveall h.notes → h.leaveall = ⟨false, mrpLeaveallTimerPeriod⟩) ∧
      AtStarts (fun w _ _ post => w = .leaveall → NoStart .leaveall post →
        h.leaveall = leaveallAfter (ticks post)) h.notes

variable {h : TimerHistory}

theorem init_inv : init.Inv := by
  have hnil : ∀ Q, AtStarts Q [] := fun Q pre w b a post h => by simp at h
  exact
    { leave_timeout := rfl
      leaveall_timeout := fun h => absurd h Bool.false_ne_true
      not_expired := List.not_mem_nil
      leave_started := hnil _
      leave_running := fun h => absurd h Bool.false_ne_true
      leaveall_counted := fun _ => ⟨fun _ => rfl, hnil _⟩ }

/-- While the leave timer is stopped, it has expired early after each of its starts, and if the
notes are in order it has not been started at all. -/
theorem Inv.noStart (hinv : h.Inv) (hstop : h.leave.running = false) (hkept : TimersKept h.notes) :
    NoStart .leave h.notes := by
  intro b a hmem
  obtain ⟨pre, post, hl⟩ := List.append_of_mem hmem
  rcases hinv.leave_started pre .leave b a post hl rfl with ⟨hrun, -⟩ | hearly
  · rw [hstop] at hrun
    exact Bool.false_ne_true hrun
  · exact (hkept pre .leave b a post hl).2.not_early hearly

/-! ### Starts -/

theorem startLeave_inv (hinv : h.Inv) : h.startLeave.Inv := by
  by_cases hrun : h.leave.running = false
  · rw [startLeave, if_pos hrun]
    refine ⟨hinv.leave_timeout, fun _ => show (0 : ℤ) < 80 by decide, ?_, ?_, fun _ => ?_,
      fun htouch => ?_⟩
    · simpa using hinv.not_expired
    · rw [atStarts_concat]
      refine ⟨fun pre w b a post hl hw => ?_, fun w b a _ _ => Or.inl ⟨rfl, Untouched.nil⟩⟩
      -- the starts before this one have all expired
      rcases hinv.leave_started pre w b a post hl hw with ⟨hrun', -⟩ | hearly
      · rw [hrun] at hrun'
        exact absurd hrun' Bool.false_ne_true
      · exact Or.inr hearly.concat
    · exact ⟨h.notes, _, _, [], rfl, Untouched.nil⟩
    · have hsame : h.leaveall = { h.leaveall with timeout := mrpLeavetimerPeriod } :=
        htouch _ _ (by simp)
      obtain ⟨hnone, hcounted⟩ := hinv.leaveall_counted fun b a hmem =>
        htouch b a (List.mem_append_left _ hmem)
      dsimp only
      rw [← hsame, atStarts_concat]
      refine ⟨fun hno => hnone (noStart_concat.mp hno).1, fun pre w b a post hl hw hno => ?_,
        fun w b a hx hw => ?_⟩
      · rw [ticks_concat, if_neg (by simp), Nat.add_zero]
        exact hcounted pre w b a post hl hw (noStart_concat.mp hno).1
      · rw [TimerNote.start.injEq] at hx
        exact nomatch hx.1.trans hw
  · rwa [startLeave, if_neg hrun]

/-- The start of the leave timer keeps the notes in order if it does not happen or the timeout
that it sets is what it sets it to. -/
theorem startLeave_kept (hinv : h.Inv) (hkept : TimersKept h.notes) :
    TimersKept h.startLeave.notes ↔
      (h.leave.running = false → h.leaveall.timeout = mrpLeavetimerPeriod) := by
  by_cases hrun : h.leave.running = false
  · rw [startLeave, if_pos hrun, timersKept_concat rfl]
    have hno := hinv.noStart hrun hkept
    have hsame : h.leaveall = { h.leaveall with timeout := mrpLeavetimerPeriod } ↔
        h.leaveall.timeout = mrpLeavetimerPeriod := by
      constructor
      · intro heq
        rw [heq]
      · intro heq
        rw [← heq]
    constructor
    · rintro ⟨-, -, -, hstart⟩ -
      exact hsame.mp (hstart .leave _ _ rfl)
    · intro htimeout
      refine ⟨hkept, fun hx => (nomatch hx), fun _ _ _ pre w b a post hl hw => ?_, fun w b a hx => ?_⟩
      · exact absurd (by rw [hl, hw]; simp) (hno b a)
      · rw [TimerNote.start.injEq] at hx
        rw [← hx.2.1, ← hx.2.2]
        exact hsame.mpr (htimeout hrun)
  · rw [startLeave, if_neg hrun]
    exact iff_of_true hkept fun hf => absurd hf hrun

theorem startLeaveall_inv (hinv : h.Inv) : h.startLeaveall.Inv := by
  refine ⟨hinv.leave_timeout, fun _ => (show (0 : ℤ) < 1000 by decide), ?_, ?_, fun hrun => ?_,
    fun htouch => ⟨fun hno => ?_, ?_⟩⟩
  · simpa [startLeaveall] using hinv.not_expired
  · rw [startLeaveall, atStarts_concat]
    refine ⟨fun pre w b a post hl hw => ?_, fun w b a hx hw => ?_⟩
    · rcases hinv.leave_started pre w b a post hl hw with ⟨hrun, huntouched⟩ | hearly
      · exact Or.inl ⟨hrun, huntouched.concat (by simp) nofun nofun⟩
      · exact Or.inr hearly.concat
    · rw [TimerNote.start.injEq] at hx
      exact nomatch hx.1.trans hw
  · obtain ⟨pre, b, a, post, hl, huntouched⟩ := hinv.leave_running hrun
    refine ⟨pre, b, a, post ++ [.start .leaveall h.leave h.leave], ?_,
      huntouched.concat (by simp) nofun nofun⟩
    show h.notes ++ [_] = _
    rw [hl, List.append_assoc, List.cons_append]
  · exact absurd rfl ((noStart_concat.mp hno).2 h.leave h.leave)
  · rw [startLeaveall, atStarts_concat]
    refine ⟨fun pre w b a post hl hw hno => ?_, fun w b a _ _ _ => rfl⟩
    exact absurd rfl ((noStart_concat.mp hno).2 h.leave h.leave)

theorem startLeaveall_kept (hkept : TimersKept h.notes) : TimersKept h.startLeaveall.notes := by
  rw [startLeaveall, timersKept_concat rfl]
  refine ⟨hkept, nofun, fun b a hx => ?_, fun w b a hx => ?_⟩
  · rw [TimerNote.start.injEq] at hx
    exact nomatch hx.1
  · rw [TimerNote.start.injEq] at hx
    exact hx.2.1.symm.trans hx.2.2

/-! ### Polls -/

theorem poll_of_running (hinv : h.Inv) (hrun : h.leave.running = true) :
    h.poll = { h with
      leave := { h.leave with running := false }
      notes := h.notes ++ [.poll] ++ [.expired .leave] } := by
  rw [poll, pollLeave, if_pos ⟨hrun, hinv.leave_timeout⟩, pollLeaveall, if_neg]
  rintro ⟨hall, hzero⟩
  exact absurd hzero (hinv.leaveall_timeout hall).ne'

theorem poll_of_stopped (hinv : h.Inv) (hstop : h.leave.running = false) :
    h.poll = { h with notes := h.notes ++ [.poll] } := by
  rw [poll, pollLeave, if_neg fun hrun => Bool.false_ne_true (hstop.symm.trans hrun.1), pollLeaveall,
    if_neg]
  rintro ⟨hall, hzero⟩
  exact absurd hzero (hinv.leaveall_timeout hall).ne'

theorem poll_stopped (hinv : h.Inv) : h.poll.leave.running = false := by
  rcases hrun : h.leave.running with _ | _
  · rw [poll_of_stopped hinv hrun]
    exact hrun
  · rw [poll_of_running hinv hrun]

/-- Notes that say nothing about the LeaveAll timer. -/
theorem Inv.leaveall_concat (hinv : h.Inv) (hx : x = .poll ∨ x = .expired .leave) :
    (∀ b a, .start .leave b a ∈ h.notes ++ [x] → b = a) →
    (NoStart .leaveall (h.notes ++ [x]) → h.leaveall = ⟨false, mrpLeaveallTimerPeriod⟩) ∧
      AtStarts (fun w _ _ post => w = .leaveall → NoStart .leaveall post →
        h.leaveall = leaveallAfter (ticks post)) (h.notes ++ [x]) := by
  intro htouch
  obtain ⟨hnone, hcounted⟩ := hinv.leaveall_counted fun b a hmem =>
    htouch b a (List.mem_append_left _ hmem)
  refine ⟨fun hno => hnone (noStart_concat.mp hno).1, atStarts_concat.mpr
    ⟨fun pre w b a post hl hw hno => ?_, fun w b a hstart => ?_⟩⟩
  · have htick : x ≠ .tick := by
      rcases hx with rfl | rfl <;> nofun
    rw [ticks_concat, if_neg htick, Nat.add_zero]
    exact hcounted pre w b a post hl hw (noStart_concat.mp hno).1
  · rcases hx with rfl | rfl <;> exact nomatch hstart

/-- A poll without an expiry. -/
theorem Inv.noted_poll (hinv : h.Inv) (hstop : h.leave.running = false) :
    Inv { h with notes := h.notes ++ [.poll] } where
  leave_timeout := hinv.leave_timeout
  leaveall_timeout := hinv.leaveall_timeout
  not_expired := by simpa using hinv.not_expired
  leave_started := by
    refine atStarts_concat.mpr ⟨fun pre w b a post hl hw => ?_, nofun⟩
    rcases hinv.leave_started pre w b a post hl hw with ⟨hrun, -⟩ | hearly
    · exact absurd (hstop.symm.trans hrun) Bool.false_ne_true
    · exact Or.inr hearly.concat
  leave_running hrun := absurd (hstop.symm.trans hrun) Bool.false_ne_true
  leaveall_counted := hinv.leaveall_concat (Or.inl rfl)

theorem poll_inv (hinv : h.Inv) : h.poll.Inv := by
  rcases hrun : h.leave.running with _ | _
  · rw [poll_of_stopped hinv hrun]
    exact hinv.noted_poll hrun
  · rw [poll_of_running hinv hrun]
    refine ⟨hinv.leave_timeout, hinv.leaveall_timeout, ?_, ?_, fun hf => absurd hf Bool.false_ne_true,
      fun htouch => ?_⟩
    · simpa using hinv.not_expired
    · refine atStarts_concat.mpr ⟨atStarts_concat.mpr ⟨fun pre w b a post hl hw => ?_, nofun⟩, nofun⟩
      rcases hinv.leave_started pre w b a post hl hw with ⟨-, huntouched⟩ | hearly
      · exact Or.inr huntouched.early
      · exact Or.inr hearly.concat.concat
    · -- the two notes one after the other
      obtain ⟨hnone, hcounted⟩ := hinv.leaveall_concat (Or.inl rfl) fun b a hmem =>
        htouch b a (List.mem_append_left _ hmem)
      refine ⟨fun hno => hnone (noStart_concat.mp hno).1, atStarts_concat.mpr
        ⟨fun pre w b a post hl hw hno => ?_, nofun⟩⟩
      rw [ticks_concat, if_neg nofun, Nat.add_zero]
      exact hcounted pre w b a post hl hw (noStart_concat.mp hno).1

theorem leaveallAfter_eq_iff {k : ℕ} :
    leaveallAfter k = ⟨false, 0⟩ ↔ TimerName.leaveall.period ≤ k := by
  rw [leaveallAfter]
  split
  · next hk =>
    exact iff_of_false (fun heq => nomatch congrArg TimersContext.running heq) (not_le.mpr hk)
  · next hk => exact iff_of_true rfl (not_lt.mp hk)

/-- A poll keeps the notes in order if it comes while the leave timer is stopped, and not after the
LeaveAll timer has run out. -/
theorem poll_kept (hinv : h.Inv) (hkept : TimersKept h.notes) :
    TimersKept h.poll.notes ↔ h.leave.running = false ∧ h.leaveall ≠ ⟨false, 0⟩ := by
  rcases hrun : h.leave.running with _ | _
  · rw [poll_of_stopped hinv hrun]
    have hno := hinv.noStart hrun hkept
    obtain ⟨hnone, hcounted⟩ := hinv.leaveall_counted hkept.untouched
    have hexpired : ∀ {pre b a post}, h.notes = pre ++ .start .leaveall b a :: post →
        .expired .leaveall ∉ post := fun hl hmem =>
      hinv.not_expired (by rw [hl]; exact List.mem_append_right _ (List.mem_cons_of_mem _ hmem))
    refine (timersKept_concat rfl).trans ⟨fun hall => ⟨rfl, fun hzero => ?_⟩, fun hand => ?_⟩
    · -- the LeaveAll timer has run out since its last start
      have hpoll := hall.2.1 rfl
      by_cases hstart : NoStart .leaveall h.notes
      · exact nomatch (congrArg TimersContext.timeout (hzero.symm.trans (hnone hstart)) :
          (0 : ℤ) = 1000)
      · obtain ⟨pre, b, a, post, hl, hpost⟩ := exists_last_start hstart
        have hafter := hcounted pre .leaveall b a post hl rfl hpost
        have hticks := leaveallAfter_eq_iff.mp (hafter.symm.trans hzero)
        exact hexpired hl (hpoll pre .leaveall b a post hl hpost hticks)
    · refine ⟨hkept, fun _ pre w b a post hl hpost hticks => ?_, nofun, nofun⟩
      cases w with
      | leave => exact absurd (by rw [hl]; simp) (hno b a)
      | leaveall =>
        have hafter := hcounted pre .leaveall b a post hl rfl hpost
        exact absurd (hafter.trans (leaveallAfter_eq_iff.mpr hticks)) hand.2
  · refine iff_of_false (fun hkept' => ?_) (fun hand => absurd hand.1.symm Bool.false_ne_true)
    obtain ⟨pre, b, a, post, hl, huntouched⟩ := hinv.leave_running hrun
    rw [poll_of_running hinv hrun] at hkept'
    have hexpires := hkept' pre .leave b a (post ++ [.poll] ++ [.expired .leave]) (by
      show h.notes ++ [_] ++ [_] = _
      rw [hl]
      simp)
    exact hexpires.2.not_early huntouched.early

/-! ### Ticks -/

theorem countDown_running {c : ℤ} (hc : 0 < c) :
    (⟨true, c⟩ : TimersContext).countDown.stopAtZero = if c = 1 then ⟨false, 0⟩ else ⟨true, c - 1⟩ := by
  have hdown : (⟨true, c⟩ : TimersContext).countDown = ⟨true, c - 1⟩ := if_pos ⟨rfl, hc⟩
  rw [hdown, TimersContext.stopAtZero]
  by_cases h1 : c = 1
  · rw [if_pos h1, h1]
    rfl
  · rw [if_neg h1, if_neg fun h => h1 (by have h0 : c - 1 = 0 := h.2; omega)]

theorem countDown_stopped {c : TimersContext} (hc : c.running = false) : c.countDown.stopAtZero = c := by
  rw [TimersContext.countDown, if_neg fun h => Bool.false_ne_true (hc.symm.trans h.1),
    TimersContext.stopAtZero, if_neg fun h => Bool.false_ne_true (hc.symm.trans h.1)]

/-- A tick takes the LeaveAll timer from one tick to the next. -/
theorem leaveallAfter_tick (k : ℕ) :
    (leaveallAfter k).countDown.stopAtZero = leaveallAfter (k + 1) := by
  have hperiod : TimerName.leaveall.period = 1000 := rfl
  have hint : mrpLeaveallTimerPeriod = 1000 := rfl
  rw [leaveallAfter, leaveallAfter, hperiod, hint]
  by_cases hk : k < 1000
  · rw [if_pos hk, countDown_running (by omega)]
    by_cases hlast : k + 1 < 1000
    · rw [if_pos hlast, if_neg (by omega), Nat.cast_add, Nat.cast_one, sub_add_eq_sub_sub]
    · rw [if_neg hlast, if_pos (by omega)]
  · rw [if_neg hk, if_neg (by omega), countDown_stopped rfl]

/-- A tick comes after a poll, which has stopped the leave timer. -/
theorem tick_inv (hinv : h.Inv) (hstop : h.leave.running = false) : h.tick.Inv := by
  have hleave : h.tick.leave = h.leave := countDown_stopped hstop
  refine ⟨by rw [hleave, hinv.leave_timeout], fun hrun => ?_, ?_, ?_, fun hrun => ?_,
    fun htouch => ?_⟩
  · rcases hall : h.leaveall with ⟨running, timeout⟩
    cases running with
    | false =>
      have hstopped : h.tick.leaveall = h.leaveall := countDown_stopped (by rw [hall])
      rw [hstopped, hall] at hrun
      exact absurd hrun Bool.false_ne_true
    | true =>
      have hpos : 0 < timeout := by
        have := hinv.leaveall_timeout (by rw [hall])
        rwa [hall] at this
      have hdown : h.tick.leaveall = if timeout = 1 then ⟨false, 0⟩ else ⟨true, timeout - 1⟩ := by
        show h.leaveall.countDown.stopAtZero = _
        rw [hall, countDown_running hpos]
      rw [hdown] at hrun ⊢
      by_cases h1 : timeout = 1
      · rw [if_pos h1] at hrun
        exact absurd hrun Bool.false_ne_true
      · rw [if_neg h1]
        show 0 < timeout - 1
        omega
  · simpa [tick] using hinv.not_expired
  · refine atStarts_concat.mpr ⟨fun pre w b a post hl hw => ?_, nofun⟩
    rcases hinv.leave_started pre w b a post hl hw with ⟨hrun, -⟩ | hearly
    · exact absurd (hstop.symm.trans hrun) Bool.false_ne_true
    · exact Or.inr hearly.concat
  · rw [hleave] at hrun
    exact absurd (hstop.symm.trans hrun) Bool.false_ne_true
  · obtain ⟨hnone, hcounted⟩ := hinv.leaveall_counted fun b a hmem =>
      htouch b a (List.mem_append_left _ hmem)
    refine ⟨fun hno => ?_, atStarts_concat.mpr ⟨fun pre w b a post hl hw hno => ?_, nofun⟩⟩
    · show h.leaveall.countDown.stopAtZero = _
      rw [hnone (noStart_concat.mp hno).1, countDown_stopped rfl]
    · show h.leaveall.countDown.stopAtZero = _
      rw [hcounted pre w b a post hl hw (noStart_concat.mp hno).1, leaveallAfter_tick, ticks_concat,
        if_pos rfl]

theorem tick_kept : TimersKept h.tick.notes ↔ TimersKept h.notes := by
  rw [tick, timersKept_concat rfl]
  exact ⟨fun hall => hall.1, fun hkept => ⟨hkept, nofun, nofun, nofun⟩⟩

end TimerHistory

end Msrp
