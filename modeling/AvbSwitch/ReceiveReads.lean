/-
Which octets of a frame `vtss_msrp_receive` reads.

The two loops over the frame are a walk of a cursor (`Cursor.next`), which moves up all the time.  At
each place the two octets of a header are looked at; in a vector that ends within the frame the
packed events and, for each value, octets of the first value are read (`RxEvent.reads`).  How many of
the first value depends on the type of the attribute and on the tables, not on the length in the
header of the message.

* `rxItems_eq`, `vtssMsrpReceive_eq` — the walk meets what the loops come across, so that taking its
  events in turn is `vtss_msrp_receive`;
* `reads_inside_iff` — the octets that are read in one event;
* `receive_readsInside_iff` — the octets that are read in a frame.
-/
import AvbSwitch.MsrpReceive
import AvbSwitch.Walks

namespace Msrp

open Octets

variable {n : ℕ} {env : Env n} {signed : Bool} {m : Mem} {t : State n} {p : Fin n} {a : AttributeType}
  {fin l msg nv len fuel : ℕ} {v : RxValue}

/-! ### The walk over the frame -/

/-- Where `msg` points in the outer and in the inner loop. -/
inductive Cursor
  | message (msg : ℕ)
  | vector (attrType : AttributeType) (firstValueLen msg : ℕ)

/-- The header at `msg` is not an end mark. -/
def Opens (m : Mem) (fin msg : ℕ) : Prop := msg < fin ∧ (m msg ≠ 0 ∨ m (msg + 1) ≠ 0)

instance : Decidable (Opens m fin msg) := inferInstanceAs (Decidable (_ ∧ _))

/-- One turn of the loops.  The function returns at an unknown type, at a vector that would run over
the end, and behind the last message. -/
def Cursor.next (m : Mem) (fin : ℕ) : Cursor → Option Cursor
  | .message msg =>
    if Opens m fin msg then
      (decodeAttrType (m msg).toNat).map fun attrType => .vector attrType (m (msg + 1)).toNat (msg + 4)
    else none
  | .vector attrType firstValueLen msg =>
    if Opens m fin msg then
      if fin < msg + vectorLen attrType firstValueLen (numvalues m msg) then none
      else some (.vector attrType firstValueLen
        (msg + vectorLen attrType firstValueLen (numvalues m msg)))
    else some (.message (msg + 2))

/-- The octets left, twice, and one more within a message. -/
def Cursor.rank (fin : ℕ) : Cursor → ℕ
  | .message msg => 2 * (fin - msg)
  | .vector _ _ msg => 2 * (fin - msg) + 1

theorem two_le_vectorLen : 2 ≤ vectorLen a l nv := by
  rw [vectorLen]
  omega

/-- The cursor moves up. -/
theorem next_descends : Walks.Descends (Cursor.next m fin) (Cursor.rank fin) := by
  intro c d h
  cases c with
  | message msg =>
    rw [Cursor.next] at h
    split at h
    case isTrue hopens =>
      obtain ⟨attrType, -, rfl⟩ := Option.map_eq_some_iff.mp h
      have hlt := hopens.1
      rw [Cursor.rank, Cursor.rank]
      omega
    case isFalse => cases h
  | vector attrType firstValueLen msg =>
    rw [Cursor.next] at h
    split at h
    case isTrue hopens =>
      split at h
      · cases h
      · obtain rfl := Option.some_inj.mp h
        have hlt := hopens.1
        have hlen := @two_le_vectorLen attrType firstValueLen (numvalues m msg)
        rw [Cursor.rank, Cursor.rank]
        omega
    case isFalse =>
      obtain rfl := Option.some_inj.mp h
      rw [Cursor.rank, Cursor.rank]
      omega

/-- What is done at one place. -/
inductive RxEvent
  /-- the header at `msg` is looked at -/
  | look (msg : ℕ)
  /-- a LeaveAll or a value of a vector of `numvalues` at `msg` -/
  | item (firstValueLen numvalues msg : ℕ) (x : RxItem)

/-- What the event hands on. -/
def RxEvent.item? : RxEvent → Option RxItem
  | .look _ => none
  | .item _ _ _ x => some x

/-- The vector at `msg` is gone through. -/
def Passes (m : Mem) (fin : ℕ) (attrType : AttributeType) (firstValueLen msg : ℕ) : Prop :=
  Opens m fin msg ∧ msg + vectorLen attrType firstValueLen (numvalues m msg) ≤ fin

instance : Decidable (Passes m fin a l msg) := inferInstanceAs (Decidable (_ ∧ _))

/-- The events at one place, in order. -/
def Cursor.events (signed : Bool) (m : Mem) (fin : ℕ) : Cursor → List RxEvent
  | .message msg => if msg < fin then [.look msg] else []
  | .vector attrType firstValueLen msg =>
    (if msg < fin then [.look msg] else []) ++
      if Passes m fin attrType firstValueLen msg then
        (vectorItems signed m attrType firstValueLen msg).map
          (.item firstValueLen (numvalues m msg) msg)
      else []

/-- The places that `vtss_msrp_receive` comes to in a frame of length `len`. -/
def cursors (m : Mem) (len : ℕ) (c : Cursor) : List Cursor :=
  Walks.walk (Cursor.next m len) (Cursor.rank len) c

/-- The events of a frame of length `len`. -/
def receiveEvents (signed : Bool) (rxframe : Mem) (len : ℕ) : List RxEvent :=
  (cursors rxframe len (.message 1)).flatMap (Cursor.events signed rxframe len)

theorem cursors_eq (c : Cursor) : cursors m fin c = c :: (c.next m fin).elim [] (cursors m fin) :=
  Walks.walk_eq next_descends

/-! ### The loops of the receiver -/

/-- What the places from `c` on hand on. -/
def itemsFrom (signed : Bool) (m : Mem) (fin : ℕ) (c : Cursor) : List RxItem :=
  ((cursors m fin c).flatMap (Cursor.events signed m fin)).filterMap RxEvent.item?

theorem itemsFrom_eq (c : Cursor) : itemsFrom signed m fin c =
    (c.events signed m fin).filterMap RxEvent.item? ++
      (c.next m fin).elim [] (itemsFrom signed m fin) := by
  rw [itemsFrom, cursors_eq, List.flatMap_cons, List.filterMap_append]
  congr 1
  cases c.next m fin with
  | none => rfl
  | some d => rfl

theorem events_message_items :
    ((Cursor.message msg).events signed m fin).filterMap RxEvent.item? = [] := by
  rw [Cursor.events]
  split
  · rfl
  · rfl

theorem events_vector_items : ((Cursor.vector a l msg).events signed m fin).filterMap RxEvent.item? =
    if Passes m fin a l msg then vectorItems signed m a l msg else [] := by
  have hlook : (if msg < fin then [RxEvent.look msg] else []).filterMap RxEvent.item? = [] := by
    split
    · rfl
    · rfl
  rw [Cursor.events, List.filterMap_append, hlook, List.nil_append]
  split
  · rw [List.filterMap_map]
    exact List.filterMap_some
  · rfl

/-- What one vector hands on before the next one. -/
theorem itemsFrom_vector : itemsFrom signed m fin (.vector a l msg) =
    if Opens m fin msg then
      if fin < msg + vectorLen a l (numvalues m msg) then []
      else vectorItems signed m a l msg ++
        itemsFrom signed m fin (.vector a l (msg + vectorLen a l (numvalues m msg)))
    else itemsFrom signed m fin (.message (msg + 2)) := by
  rw [itemsFrom_eq, events_vector_items, Cursor.next]
  by_cases hopens : Opens m fin msg
  · rw [if_pos hopens, if_pos hopens]
    by_cases hover : fin < msg + vectorLen a l (numvalues m msg)
    · rw [if_pos hover, if_pos hover, if_neg fun h => absurd hover (not_lt.mpr h.2)]
      rfl
    · rw [if_neg hover, if_neg hover, if_pos ⟨hopens, not_lt.mp hover⟩]
      rfl
  · rw [if_neg hopens, if_neg hopens, if_neg fun h => hopens h.1]
    rfl

/-- The loop over the vectors of a message. -/
theorem vectorLoop_items (hfuel : fin ≤ msg + fuel) :
    itemsFrom signed m fin (.vector a l msg) =
      (vectorLoop signed m fin a l (fuel + 1) msg).1 ++
        (vectorLoop signed m fin a l (fuel + 1) msg).2.elim []
          (fun stop => itemsFrom signed m fin (.message (stop + 2))) := by
  induction fuel generalizing msg with
  | zero =>
    have hclosed : ¬ Opens m fin msg := fun h => absurd h.1 (not_lt.mpr hfuel)
    rw [itemsFrom_vector, if_neg hclosed, vectorLoop]
    rw [if_neg (show ¬ (msg < fin ∧ _) from hclosed)]
    rfl
  | succ fuel ih =>
    have hlen := @two_le_vectorLen a l (numvalues m msg)
    rw [itemsFrom_vector, vectorLoop]
    by_cases hopens : Opens m fin msg
    · rw [if_pos hopens, if_pos (show msg < fin ∧ _ from hopens)]
      by_cases hover : fin < msg + vectorLen a l (numvalues m msg)
      · rw [if_pos hover, if_pos hover]
        rfl
      · rw [if_neg hover, if_neg hover, ih (by omega), ← List.append_assoc]
    · rw [if_neg hopens, if_neg (show ¬ (msg < fin ∧ _) from hopens)]
      rfl

/-- The loop over the messages. -/
theorem messageLoop_items (hfuel : fin ≤ msg + fuel) :
    itemsFrom signed m fin (.message msg) = messageLoop signed m fin (fuel + 1) msg := by
  induction fuel generalizing msg with
  | zero =>
    have hclosed : ¬ Opens m fin msg := fun h => absurd h.1 (not_lt.mpr hfuel)
    rw [itemsFrom_eq, events_message_items, Cursor.next, if_neg hclosed, messageLoop,
      if_neg (show ¬ (msg < fin ∧ _) from hclosed)]
    rfl
  | succ fuel ih =>
    rw [itemsFrom_eq, events_message_items, List.nil_append, Cursor.next, messageLoop]
    by_cases hopens : Opens m fin msg
    · rw [if_pos hopens, if_pos (show msg < fin ∧ _ from hopens)]
      cases hattr : decodeAttrType (m msg).toNat with
      | none => rfl
      | some attrType =>
        rw [Option.map_some, Option.elim_some, vectorLoop_items (Nat.le_add_left fin (msg + 4))]
        dsimp only
        cases hloop : vectorLoop signed m fin attrType (m (msg + 1)).toNat (fin + 1) (msg + 4) with
        | mk items stop =>
          cases stop with
          | none => exact List.append_nil _
          | some stop =>
            have hle : msg + 4 ≤ stop := le_of_vectorLoop (by rw [hloop])
            have hrest : fin ≤ stop + 2 + fuel := by omega
            exact congrArg (items ++ ·) (ih hrest)
    · rw [if_neg hopens, if_neg (show ¬ (msg < fin ∧ _) from hopens)]
      rfl

/-- **The walk meets what the loops come across.** -/
theorem rxItems_eq : rxItems signed m len = (receiveEvents signed m len).filterMap RxEvent.item? :=
  (messageLoop_items (Nat.le_add_left len 1)).symm

/-- An event taken by the receiver. -/
def RxEvent.step (env : Env n) (p : Fin n) (s : State n × Option MachineRef) :
    RxEvent → Option (State n × Option MachineRef)
  | .look _ => some s
  | .item _ _ _ x => receiveItem env p s x

theorem run_step_eq (es : List RxEvent) (s : State n × Option MachineRef) :
    Runs.run (RxEvent.step env p) s es =
      Runs.run (receiveItem env p) s (es.filterMap RxEvent.item?) := by
  induction es generalizing s with
  | nil => rfl
  | cons e es ih =>
    cases e with
    | look msg => exact ih s
    | item l nv msg x =>
      exact congrArg (Option.bind (receiveItem env p s x)) (funext ih)

/-- **Taking the events in turn is `vtss_msrp_receive`.** -/
theorem vtssMsrpReceive_eq : vtssMsrpReceive env t p m len =
    (Runs.run (RxEvent.step env p) (t, none) (receiveEvents env.charSigned m len)).map Prod.fst := by
  rw [vtssMsrpReceive, rxItems_eq, run_step_eq]

/-! ### What is read -/

/-- The octets of the first value that `vtss_msrp_allocate_stream` reads for a Talker, in its
order; the sizes are loaded with four octets. -/
def talkerReads (attrType : AttributeType) : List ℕ :=
  [14, 15] ++ List.range' 8 6 ++ List.range' 16 4 ++ List.range' 18 4 ++ [20] ++ List.range' 21 4 ++
    if attrType = .talkerFailed then List.range' 25 8 ++ [33] else []

/-- The octets of the first value that are read for a value.  A Domain is copied; otherwise the
stream is looked up, and a new one is stored if there is a free entry. -/
def firstValueReads (signed : Bool) (t : State n) (v : RxValue) : List ℕ :=
  if v.attrType = .domainVector then [0, 1, 2, 3]
  else List.range 8 ++
    if vtssMsrpFindStream signed t v.firstValue v.i ≠ none then []
    else List.range 8 ++
      if vtssMsrpGetFreeStream t ≠ none ∧ v.attrType.IsTalker then talkerReads v.attrType else []

/-- The octets of the packed events that are read for value `i`, from the first value on. -/
def packedReads (attrType : AttributeType) (firstValueLen numvalues i : ℕ) : List ℕ :=
  (firstValueLen + i / 3) ::
    if hasFourpackedEvents attrType then [firstValueLen + threepackedLen numvalues + i / 4] else []

/-- The addresses of the octets that are read in an event. -/
def RxEvent.reads (signed : Bool) (t : State n) : RxEvent → List ℕ
  | .look msg => [msg, msg + 1]
  | .item _ _ _ (.leaveAll _) => []
  | .item firstValueLen numvalues msg (.value v) =>
    (packedReads v.attrType firstValueLen numvalues v.i ++ firstValueReads signed t v).map (msg + 2 + ·)

/-- How many octets of the first value are needed. -/
def firstValueExtent (signed : Bool) (t : State n) (v : RxValue) : ℕ :=
  if v.attrType = .domainVector then 4
  else if vtssMsrpFindStream signed t v.firstValue v.i = none ∧ vtssMsrpGetFreeStream t ≠ none ∧
    v.attrType.IsTalker then firstValueLengths v.attrType
  else 8

/-- The headers are whole and the first values long enough for what is read of them. -/
def RxEvent.Fits (signed : Bool) (len : ℕ) (t : State n) : RxEvent → Prop
  | .look msg => msg + 2 ≤ len
  | .item _ _ _ (.leaveAll _) => True
  | .item _ _ msg (.value v) => msg + 2 + firstValueExtent signed t v ≤ len

/-! ### Bounds -/

/-- The octets of the list are below `k`, and the last one of these is among them. -/
def Spans (k : ℕ) (l : List ℕ) : Prop := (∀ x ∈ l, x < k) ∧ k - 1 ∈ l ∧ 0 < k

instance {k : ℕ} {l : List ℕ} : Decidable (Spans k l) := inferInstanceAs (Decidable (_ ∧ _ ∧ _))

theorem Spans.inside_iff {k b : ℕ} {l : List ℕ} (h : Spans k l) :
    (∀ x ∈ l.map (b + ·), x < len) ↔ b + k ≤ len := by
  rw [List.forall_mem_map]
  constructor
  · intro hall
    have hlast := hall (k - 1) h.2.1
    have hpos := h.2.2
    omega
  · intro hle x hx
    have hlt := h.1 x hx
    omega

theorem talkerReads_spans : Spans 25 (List.range 8 ++ (List.range 8 ++ talkerReads .talkerAdvertise)) ∧
    Spans 34 (List.range 8 ++ (List.range 8 ++ talkerReads .talkerFailed)) := by decide

theorem firstValueReads_spans (signed : Bool) (t : State n) (v : RxValue) :
    Spans (firstValueExtent signed t v) (firstValueReads signed t v) := by
  rw [firstValueExtent, firstValueReads]
  by_cases hd : v.attrType = .domainVector
  · rw [if_pos hd, if_pos hd]
    decide
  · rw [if_neg hd, if_neg hd]
    by_cases hfind : vtssMsrpFindStream signed t v.firstValue v.i = none
    · rw [if_neg (not_not.mpr hfind)]
      by_cases htalker : vtssMsrpGetFreeStream t ≠ none ∧ v.attrType.IsTalker
      · rw [if_pos ⟨hfind, htalker⟩, if_pos htalker]
        rcases htalker.2 with h | h
        · rw [h]
          exact talkerReads_spans.1
        · rw [h]
          exact talkerReads_spans.2
      · rw [if_neg fun h => htalker h.2, if_neg htalker]
        decide
    · rw [if_pos hfind, if_neg fun h => hfind h.1]
      decide

theorem mem_vectorItems (h : .value v ∈ vectorItems signed m a l msg) :
    v.attrType = a ∧ v.i < numvalues m msg := by
  rw [vectorItems, List.mem_append] at h
  rcases h with h | h
  · split at h
    · exact RxItem.noConfusion (List.mem_singleton.mp h)
    · exact absurd h List.not_mem_nil
  · obtain ⟨i, hi, hv⟩ := List.mem_map.mp h
    rw [← RxItem.value.inj hv]
    exact ⟨rfl, List.mem_range.mp hi⟩

/-- A value belongs to a vector that ends within the frame. -/
theorem mem_receiveEvents (h : .item l nv msg (.value v) ∈ receiveEvents signed m len) :
    v.i < nv ∧ msg + vectorLen v.attrType l nv ≤ len := by
  obtain ⟨c, -, hc⟩ := List.mem_flatMap.mp h
  have hlook : ∀ at_, RxEvent.item l nv msg (.value v) ∉
      if at_ < len then [RxEvent.look at_] else [] := by
    intro at_ hmem
    split at hmem
    · exact RxEvent.noConfusion (List.mem_singleton.mp hmem)
    · exact absurd hmem List.not_mem_nil
  cases c with
  | message at_ => exact absurd hc (hlook at_)
  | vector a k at_ =>
    rcases List.mem_append.mp hc with hc | hc
    · exact absurd hc (hlook at_)
    · split at hc
      case isTrue hpasses =>
        obtain ⟨x, hx, heq⟩ := List.mem_map.mp hc
        obtain ⟨rfl, rfl, rfl, rfl⟩ := RxEvent.item.inj heq
        obtain ⟨hattr, hi⟩ := mem_vectorItems hx
        rw [hattr]
        exact ⟨hi, hpasses.2⟩
      case isFalse => exact absurd hc List.not_mem_nil

/-- The packed events lie in the vector. -/
theorem packedReads_inside (hi : v.i < nv) (hlen : msg + vectorLen v.attrType l nv ≤ len) :
    ∀ x ∈ (packedReads v.attrType l nv v.i).map (msg + 2 + ·), x < len := by
  rw [vectorLen, threepackedLen, fourpackedLen] at hlen
  rw [List.forall_mem_map, packedReads, List.forall_mem_cons]
  constructor
  · omega
  · split
    · rename_i hfour
      rw [if_pos hfour] at hlen
      rw [threepackedLen]
      intro x hx
      rw [List.mem_singleton.mp hx]
      omega
    · exact fun x hx => absurd hx List.not_mem_nil

/-- **The octets that are read in one event** lie in the frame if and only if the event fits. -/
theorem reads_inside_iff {e : RxEvent} (he : e ∈ receiveEvents signed m len) (t : State n) :
    (∀ x ∈ e.reads signed t, x < len) ↔ e.Fits signed len t := by
  cases e with
  | look msg =>
    show (∀ x ∈ [msg, msg + 1], x < len) ↔ msg + 2 ≤ len
    rw [List.forall_mem_cons, List.forall_mem_singleton]
    omega
  | item l nv msg x =>
    cases x with
    | leaveAll attrType => exact iff_of_true (fun x hx => absurd hx List.not_mem_nil) trivial
    | value v =>
      obtain ⟨hi, hlen⟩ := mem_receiveEvents he
      show (∀ x ∈ (packedReads v.attrType l nv v.i ++ firstValueReads signed t v).map (msg + 2 + ·),
        x < len) ↔ msg + 2 + firstValueExtent signed t v ≤ len
      rw [List.map_append, List.forall_mem_append, ← (firstValueReads_spans signed t v).inside_iff]
      exact and_iff_right (packedReads_inside hi hlen)

/-! ### The frame -/

/-- The function terminates and reads octets of the frame only. -/
structure ReadsInside (env : Env n) (p : Fin n) (t : State n) (rxframe : Mem) (len : ℕ) : Prop where
  terminates : Acc (fun d c => Cursor.next rxframe len c = some d) (.message 1)
  inside : Runs.AtEach (RxEvent.step env p)
    (fun s e => ∀ x ∈ e.reads env.charSigned s.1, x < len) (t, none)
      (receiveEvents env.charSigned rxframe len)

/-- In a frame with whole headers, whose first values have at least the lengths of their types, it
does so in every state. -/
theorem readsInside_of_lengths
    (hheads : ∀ msg, .look msg ∈ receiveEvents env.charSigned m len → msg + 2 ≤ len)
    (hlengths : ∀ l nv msg v, .item l nv msg (.value v) ∈ receiveEvents env.charSigned m len →
      firstValueLengths v.attrType ≤ l) : ReadsInside env p t m len := by
  refine ⟨Walks.terminates next_descends _, ?_⟩
  refine (Runs.atEach_congr (Q := fun _ _ => True) (K := fun _ => True) (fun _ _ => trivial)
    (fun e he s _ => iff_true_intro ((reads_inside_iff he s.1).mpr ?_)) trivial).mpr
    (Runs.atEach_of_invariant (K := fun _ => True) (fun _ _ => trivial) (fun _ => trivial) trivial)
  cases e with
  | look msg => exact hheads msg he
  | item l nv msg x =>
    cases x with
    | leaveAll attrType => trivial
    | value v =>
      have hlong := hlengths l nv msg v he
      have hend := (mem_receiveEvents he).2
      have hextent : firstValueExtent env.charSigned s.1 v ≤ firstValueLengths v.attrType := by
        rw [firstValueExtent]
        by_cases hd : v.attrType = .domainVector
        · rw [if_pos hd, hd]
          exact Nat.le_refl 4
        · rw [if_neg hd]
          split
          · exact le_rfl
          · cases hattr : v.attrType with
            | domainVector => exact absurd hattr hd
            | listener => exact Nat.le_refl 8
            | talkerAdvertise => exact Nat.le_add_right 8 17
            | talkerFailed => exact Nat.le_add_right 8 26
      rw [vectorLen] at hend
      show msg + 2 + firstValueExtent env.charSigned s.1 v ≤ len
      omega

/-- **Parsing stays inside the frame** if and only if each event that it comes to fits, in the state
in which it comes to it. -/
theorem receive_readsInside_iff (env : Env n) (p : Fin n) (t : State n) (rxframe : Mem) (len : ℕ) :
    ReadsInside env p t rxframe len ↔
      Runs.AtEach (RxEvent.step env p) (fun s e => e.Fits env.charSigned len s.1) (t, none)
        (receiveEvents env.charSigned rxframe len) := by
  have hcongr := @Runs.atEach_congr _ _ (RxEvent.step env p) (fun _ => True) _ _
    (fun _ _ => trivial) (receiveEvents env.charSigned rxframe len)
    (fun e he s _ => reads_inside_iff he s.1) (t, none) trivial
  constructor
  · intro h
    exact hcongr.mp h.inside
  · intro h
    exact ⟨Walks.terminates next_descends _, hcongr.mpr h⟩

/-- The frame has a header of one octet only. -/
def cutFrame : Mem := fun k => if k = 1 then 1 else 0

/-- In a frame of two octets the third one is read. -/
theorem receive_reads_behind :
    ¬ ReadsInside ⟨true, fun _ _ => false⟩ 0 (State.idle 1) cutFrame 2 := by
  intro h
  have hevents : receiveEvents true cutFrame 2 = [.look 1] := rfl
  have hinside := h.inside
  rw [hevents] at hinside
  exact absurd (hinside.1 2 (List.mem_cons_of_mem _ List.mem_cons_self)) (by decide)

end Msrp