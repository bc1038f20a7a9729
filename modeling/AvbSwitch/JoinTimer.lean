/-
The join timer of a participant by itself.

What becomes of the timer is a list of notes: it is started, polled and counted down, and a poll
either grants the opportunity to transmit or does not.  `joinStep` is what each of these does to
the timer, so that a history of the timer is a run of it:

* `DuePoll` — in a list of notes there is a poll that comes `k` ticks or later;
* `run_joinStep` — where a started timer is after notes without another start: it has been
  stopped by the first poll after its ticks, or it is that much nearer to 0;
* `Granted` — a start is followed by one grant, at the first poll after 20 ticks;
* `granted_of_run` — this holds of every start on a shared link, and `not_granted` of none on a
  point-to-point link.
-/
import AvbSwitch.MsrpService

namespace Msrp

/-- What is noted of the join timer. -/
inductive JoinNote
  | start
  | poll (granted : Bool)
  | tick
  deriving DecidableEq, Repr

/-- The ticks among some notes. -/
def joinTicks (l : List JoinNote) : ℕ := l.count .tick

/-- What a note says about the timer before and after.  A poll that finds the timer at 0 stops it,
and grants the opportunity if the link is not point-to-point. -/
def joinStep (pointToPoint : Bool) (c : TimersContext) : JoinNote → Option TimersContext
  | .start => if c.running then none else some ⟨true, mrpJointimerPeriod⟩
  | .poll granted =>
    if c.running ∧ c.timeout = 0 then
      if granted = !pointToPoint then some { c with running := false } else none
    else if granted then none else some c
  | .tick => some c.countDown

variable {pointToPoint granted : Bool} {c c' : TimersContext} {l a b post : List JoinNote} {k : ℕ}

/-- A poll that `k` ticks have come before. -/
def DuePoll (k : ℕ) (l : List JoinNote) : Prop :=
  ∃ a g b, l = a ++ .poll g :: b ∧ k ≤ joinTicks a

@[simp] theorem joinTicks_poll : joinTicks (.poll granted :: l) = joinTicks l :=
  List.count_cons_of_ne (fun h => JoinNote.noConfusion h)

@[simp] theorem joinTicks_tick : joinTicks (.tick :: l) = joinTicks l + 1 := List.count_cons_self

theorem not_duePoll_nil : ¬ DuePoll k [] := by
  rintro ⟨a, g, b, h, -⟩
  exact List.append_ne_nil_of_right_ne_nil a (List.cons_ne_nil _ b) h.symm

theorem duePoll_poll : DuePoll k (.poll granted :: l) ↔ k = 0 ∨ DuePoll k l := by
  constructor
  · rintro ⟨a, g, b, h, hk⟩
    rcases List.cons_eq_append_iff.mp h with ⟨rfl, -⟩ | ⟨a, rfl, rfl⟩
    · exact Or.inl (Nat.le_zero.mp hk)
    · rw [joinTicks_poll] at hk
      exact Or.inr ⟨a, g, b, rfl, hk⟩
  · rintro (rfl | ⟨a, g, b, rfl, hk⟩)
    · exact ⟨[], granted, l, rfl, Nat.zero_le _⟩
    · exact ⟨.poll granted :: a, g, b, rfl, by rw [joinTicks_poll]; exact hk⟩

theorem duePoll_tick : DuePoll k (.tick :: l) ↔ DuePoll (k - 1) l := by
  constructor
  · rintro ⟨a, g, b, h, hk⟩
    rcases List.cons_eq_append_iff.mp h with ⟨-, hl⟩ | ⟨a, rfl, rfl⟩
    · exact JoinNote.noConfusion (List.cons.inj hl).1
    · rw [joinTicks_tick] at hk
      exact ⟨a, g, b, rfl, Nat.sub_le_of_le_add hk⟩
  · rintro ⟨a, g, b, rfl, hk⟩
    exact ⟨.tick :: a, g, b, rfl, by rw [joinTicks_tick]; exact Nat.le_add_of_sub_le hk⟩

/-! ### A timer that has been started -/

/-- Running with `k` ticks to go. -/
def TimersContext.counting (k : ℕ) : TimersContext := ⟨true, k⟩

theorem countDown_counting : (TimersContext.counting k).countDown = .counting (k - 1) := by
  rw [TimersContext.countDown, TimersContext.counting, TimersContext.counting]
  cases k with
  | zero => rfl
  | succ k =>
    rw [if_pos ⟨rfl, Int.natCast_pos.mpr k.succ_pos⟩]
    congr 1
    show ((k + 1 : ℕ) : ℤ) - 1 = _
    rw [Nat.add_sub_cancel]
    omega

/-- A timer that does not run is not polled with success, nor counted down. -/
theorem joinStep_stopped {x : JoinNote} (hc : c.running = false) (hx : x ≠ .start)
    (h : joinStep pointToPoint c x = some c') : c' = c ∧ x ≠ .poll true := by
  cases x with
  | start => exact absurd rfl hx
  | poll granted =>
    rw [joinStep, if_neg fun h => Bool.false_ne_true (hc.symm.trans h.1)] at h
    cases granted with
    | true => cases h
    | false => exact ⟨(Option.some_inj.mp h).symm, fun h => Bool.false_ne_true (JoinNote.poll.inj h)⟩
  | tick =>
    rw [joinStep, TimersContext.countDown, if_neg fun h => Bool.false_ne_true (hc.symm.trans h.1)] at h
    exact ⟨(Option.some_inj.mp h).symm, fun h => JoinNote.noConfusion h⟩

theorem run_stopped (hc : c.running = false) (hstart : .start ∉ l)
    (h : Runs.run (joinStep pointToPoint) c l = some c') : c'.running = false := by
  refine Runs.run_invariant_of_forall (I := fun c => c.running = false) (Q := fun x => x ≠ .start)
    (fun hx hc h => ?_) (fun x hx => ?_) hc h
  · rw [(joinStep_stopped hc hx h).1]
    exact hc
  · rintro rfl
    exact hstart hx

/-- Where a timer is that had `k` ticks to go, after notes that do not start it again. -/
theorem run_joinStep (hstart : .start ∉ l)
    (h : Runs.run (joinStep pointToPoint) (.counting k) l = some c') :
    (DuePoll k l → c'.running = false ∧ .poll (!pointToPoint) ∈ l) ∧
      (¬ DuePoll k l → c' = .counting (k - joinTicks l)) := by
  induction l generalizing k with
  | nil =>
    refine ⟨fun hdue => absurd hdue not_duePoll_nil, fun _ => ?_⟩
    exact (Option.some_inj.mp h).symm
  | cons x l ih =>
    rw [List.mem_cons, not_or] at hstart
    obtain ⟨d, hd, hrest⟩ := Runs.run_cons_eq_some.mp h
    cases x with
    | start => exact absurd rfl hstart.1
    | poll granted =>
      rw [duePoll_poll, joinTicks_poll]
      by_cases hk : k = 0
      · -- the poll that stops the timer
        rw [joinStep, if_pos ⟨rfl, by rw [hk]; rfl⟩] at hd
        by_cases hg : granted = !pointToPoint
        · rw [if_pos hg] at hd
          have hstop : d.running = false := by rw [← Option.some_inj.mp hd]
          refine ⟨fun _ => ⟨run_stopped hstop hstart.2 hrest, ?_⟩, fun hno => absurd (Or.inl hk) hno⟩
          rw [← hg]
          exact List.mem_cons_self
        · rw [if_neg hg] at hd
          cases hd
      · rw [joinStep, if_neg fun h => hk (Int.ofNat_eq_zero.mp h.2)] at hd
        cases granted with
        | true => cases hd
        | false =>
          obtain rfl := Option.some_inj.mp hd
          obtain ⟨hyes, hno⟩ := ih hstart.2 hrest
          rw [or_iff_right hk]
          exact ⟨fun hdue => ⟨(hyes hdue).1, List.mem_cons_of_mem _ (hyes hdue).2⟩, hno⟩
    | tick =>
      rw [joinStep, countDown_counting] at hd
      obtain rfl := Option.some_inj.mp hd
      obtain ⟨hyes, hno⟩ := ih hstart.2 hrest
      rw [duePoll_tick, joinTicks_tick]
      refine ⟨fun hdue => ⟨(hyes hdue).1, List.mem_cons_of_mem _ (hyes hdue).2⟩, fun hdue => ?_⟩
      rw [hno hdue, Nat.sub_sub, Nat.add_comm]

/-! ### Grants -/

/-- What is noted after a start is in order, as far as it belongs to this start: a poll grants the
opportunity exactly if it is the first one after 20 ticks, and the timer is not started again
before the opportunity has been granted. -/
structure Granted (post : List JoinNote) : Prop where
  due : ∀ a g b, post = a ++ .poll g :: b → .start ∉ a →
    (g = true ↔ mrpJointimerPeriod.toNat ≤ joinTicks a ∧ ¬ DuePoll mrpJointimerPeriod.toNat a)
  once : ∀ a b, post = a ++ .start :: b → .start ∉ a → .poll true ∈ a

/-- Every start is followed by one grant in time. -/
def StartsGranted (l : List JoinNote) : Prop := ∀ pre post, l = pre ++ .start :: post → Granted post

theorem counting_period :
    (⟨true, mrpJointimerPeriod⟩ : TimersContext) = .counting mrpJointimerPeriod.toNat := rfl

/-- On a shared link a timer that has just been started is granted once. -/
theorem granted_of_started
    (h : Runs.run (joinStep false) (.counting mrpJointimerPeriod.toNat) post = some c') :
    Granted post := by
  constructor
  · rintro a g b rfl hstart
    obtain ⟨d, hd, hrest⟩ := Runs.run_append_eq_some.mp h
    obtain ⟨e, he, -⟩ := Runs.run_cons_eq_some.mp hrest
    obtain ⟨hyes, hno⟩ := run_joinStep hstart hd
    by_cases hdue : DuePoll mrpJointimerPeriod.toNat a
    · -- the timer has been stopped before
      refine iff_of_false ?_ fun hn => hn.2 hdue
      rintro rfl
      exact (joinStep_stopped (hyes hdue).1 (fun h => JoinNote.noConfusion h) he).2 rfl
    · rw [hno hdue] at he
      by_cases hticks : mrpJointimerPeriod.toNat ≤ joinTicks a
      · rw [Nat.sub_eq_zero_of_le hticks, joinStep, if_pos ⟨rfl, rfl⟩] at he
        refine iff_of_true ?_ ⟨hticks, hdue⟩
        by_contra hg
        have hg' : ¬ g = !false := hg
        rw [if_neg hg'] at he
        cases he
      · refine iff_of_false ?_ fun hn => hticks hn.1
        rintro rfl
        have hpos : mrpJointimerPeriod.toNat - joinTicks a ≠ 0 :=
          Nat.sub_ne_zero_of_lt (not_le.mp hticks)
        rw [joinStep, if_neg fun h => hpos (Int.ofNat_eq_zero.mp h.2)] at he
        cases he
  · rintro a b rfl hstart
    obtain ⟨d, hd, hrest⟩ := Runs.run_append_eq_some.mp h
    obtain ⟨e, he, -⟩ := Runs.run_cons_eq_some.mp hrest
    obtain ⟨hyes, hno⟩ := run_joinStep hstart hd
    by_cases hdue : DuePoll mrpJointimerPeriod.toNat a
    · exact (hyes hdue).2
    · -- a timer that runs cannot be started
      rw [hno hdue, joinStep] at he
      cases he

/-- **On a shared link every start is granted once.** -/
theorem granted_of_run (h : Runs.run (joinStep false) c l = some c') : StartsGranted l := by
  rintro pre post rfl
  obtain ⟨d, -, hrest⟩ := Runs.run_append_eq_some.mp h
  obtain ⟨e, he, hpost⟩ := Runs.run_cons_eq_some.mp hrest
  rw [joinStep] at he
  split at he
  · cases he
  · rw [← Option.some_inj.mp he, counting_period] at hpost
    exact granted_of_started hpost

/-- On a point-to-point link nothing is granted. -/
theorem not_granted (h : Runs.run (joinStep true) c l = some c') : .poll true ∉ l := by
  induction l generalizing c with
  | nil => exact List.not_mem_nil
  | cons x l ih =>
    obtain ⟨d, hd, hrest⟩ := Runs.run_cons_eq_some.mp h
    rw [List.mem_cons, not_or]
    refine ⟨?_, ih hrest⟩
    rintro rfl
    rw [joinStep] at hd
    split at hd
    · cases hd
    · cases hd

end Msrp
