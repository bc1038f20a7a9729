/-
The pools of the MSRP module: `stream_info_vars`, `reservations_info_ptr` and the machines of
a participant.

The rest of the model reads `used` as a Boolean and has no entries but those that the arrays
declare.  Here `used` is the integer that it is, so that the tests of the scans can be told
apart, and the scans have the bounds of the source:

* `getFreeStream` goes on to ten entries, of which five are declared;
* `getFreeReservation` has no `return` behind its loop;
* `getAttributeApp` and `getAttributeReg` go on to `MRP_MAX_ATTRS` machines, of which 24 are
  declared.

`State.getFreeStream_refines` and its companions say that within the arrays these are the
functions of the model.
-/
import AvbSwitch.FirstFit
import AvbSwitch.MsrpFrames
import AvbSwitch.MsrpReceive

namespace Msrp

open Octets Pools

variable {n : ℕ}

/-- An entry of a pool: `used`, and the other fields, of which a `used` is not looked at. -/
structure PoolEntry (φ ρ : Type) where
  used : φ
  fields : ρ

/-- The pools that a call finds, with what lies behind them. -/
structure PoolTables (n : ℕ) where
  /-- `stream_info_vars`; `used` is a `char` -/
  streams : ℕ → PoolEntry UInt8 StreamInfo
  /-- `reservations_info_ptr`; `used` is an `int` -/
  reservations : ℕ → PoolEntry Int32 (Reservation n)
  /-- `machines` of a participant; `used` is an `unsigned char` -/
  machines : ℕ → PoolEntry UInt8 MadMachine
  /-- what is found in the place of a result that is not returned -/
  notReturned : Pointer

/-- `MRP_MAX_ATTRS`. -/
def mrpMaxAttrs : ℕ := 240

/-- The entries of `reservations_info_ptr`. -/
def reservationCount : ℕ := 30

/-- The entries of `machines`. -/
def machineCount : ℕ := 24

/-- An entry is used if its `used` is not zero. -/
def PoolEntry.IsUsed {φ ρ : Type} [OfNat φ 0] (e : PoolEntry φ ρ) : Prop := e.used ≠ 0

/-! ### The scans -/

/-- `vtss_msrp_get_free_stream`. -/
def getFreeStream (t : ℕ → PoolEntry UInt8 StreamInfo) :
    (ℕ → PoolEntry UInt8 StreamInfo) × Pointer :=
  take (fun e => e.used != 1) (fun e => { e with used := 1 }) 10 .null t

/-- `msrp_get_free_reservation`. -/
def getFreeReservation (notReturned : Pointer) (t : ℕ → PoolEntry Int32 (Reservation n)) :
    (ℕ → PoolEntry Int32 (Reservation n)) × Pointer :=
  take (fun e => e.used == 0) (fun _ => { used := 1, fields := Reservation.zero n }) 30
    notReturned t

/-- The scan of `get_attribute_app` and of `get_attribute_reg`, which write different fields. -/
def getFreeAttribute (write : MadMachine → MadMachine) (t : ℕ → PoolEntry UInt8 MadMachine) :
    (ℕ → PoolEntry UInt8 MadMachine) × Pointer :=
  take (fun e => e.used == 0) (fun e => { used := 1, fields := write e.fields }) mrpMaxAttrs
    .null t

/-- `get_attribute_app`. -/
def getFreeAttributeApp (t : ℕ → PoolEntry UInt8 MadMachine) :
    (ℕ → PoolEntry UInt8 MadMachine) × Pointer :=
  getFreeAttribute (fun m => { m with appState := .VO, attrDir := .dec }) t

/-- `get_attribute_reg`. -/
def getFreeAttributeReg (t : ℕ → PoolEntry UInt8 MadMachine) :
    (ℕ → PoolEntry UInt8 MadMachine) × Pointer :=
  getFreeAttribute (fun m => { m with regState := .MT, attrDir := .reg }) t

/-- `vtss_msrp_allocate_stream`, as far as it does not write through NULL. -/
def allocateStream (signed : Bool) (t : ℕ → PoolEntry UInt8 StreamInfo)
    (attrType : AttributeType) (fv : ℕ → UInt8) (num : ℕ) :
    Option ((ℕ → PoolEntry UInt8 StreamInfo) × ℕ) :=
  match getFreeStream t with
  | (t, .entry i) =>
    let id := wireStreamID signed fv num
    let s := { (t i).fields with id0 := id.1, id1 := id.2 }
    some (Function.update t i
      { t i with fields := if attrType.IsTalker then talkerInfo attrType fv s else s }, i)
  | _ => none

/-! ### When they are safe -/

/-- The four functions allocate from their tables, and a stream is not written through
NULL. -/
structure PoolTables.Safe (T : PoolTables n) (signed : Bool) (attrType : AttributeType)
    (fv : ℕ → UInt8) (num : ℕ) : Prop where
  stream : Allocates PoolEntry.IsUsed streamCount T.streams (getFreeStream T.streams)
  reservation : Allocates PoolEntry.IsUsed reservationCount T.reservations
    (getFreeReservation T.notReturned T.reservations)
  app : Allocates PoolEntry.IsUsed machineCount T.machines (getFreeAttributeApp T.machines)
  reg : Allocates PoolEntry.IsUsed machineCount T.machines (getFreeAttributeReg T.machines)
  notNull : allocateStream signed T.streams attrType fv num ≠ none

/-- There is room: the first stream whose `used` is not 1 is declared and unused; a
reservation is unused, unless NULL happens to be found in the place of a result; a machine
is unused, unless nothing of what lies behind the machines looks like an unused one. -/
structure PoolTables.HasRoom (T : PoolTables n) : Prop where
  stream : ∃ i < streamCount, (T.streams i).used = 0 ∧ ∀ j < i, (T.streams j).used = 1
  reservation : (∃ i < reservationCount, (T.reservations i).used = 0) ∨ T.notReturned = .null
  machine : (∃ i < machineCount, (T.machines i).used = 0) ∨
    ∀ i < mrpMaxAttrs, (T.machines i).used ≠ 0

section Conditions

variable {t : ℕ → PoolEntry UInt8 StreamInfo} {T : PoolTables n} {signed : Bool}
  {attrType : AttributeType} {fv : ℕ → UInt8} {num : ℕ}

theorem isUsed_iff {φ ρ : Type} [OfNat φ 0] {e : PoolEntry φ ρ} : ¬ e.IsUsed ↔ e.used = 0 :=
  not_not

theorem getFreeStream_allocates_iff :
    Allocates PoolEntry.IsUsed streamCount t (getFreeStream t) ↔
      (∃ i < streamCount, (t i).used = 0 ∧ ∀ j < i, (t j).used = 1) ∨ ∀ i < 10, (t i).used = 1 := by
  have hmark : ∀ e : PoolEntry UInt8 StreamInfo,
      ({ e with used := 1 } : PoolEntry UInt8 StreamInfo).IsUsed := by
    intro e
    show (1 : UInt8) ≠ 0
    decide
  have hfree : ∀ e : PoolEntry UInt8 StreamInfo, ¬ e.IsUsed → (e.used != 1) = true := by
    intro e he
    rw [isUsed_iff.mp he]
    decide
  rw [getFreeStream, take_allocates_iff hmark hfree (by decide)]
  simp [isUsed_iff]

/-- The allocation of a stream finds one of the ten entries that the scan comes across. -/
theorem allocateStream_ne_none_iff :
    allocateStream signed t attrType fv num ≠ none ↔ ∃ i < 10, (t i).used ≠ 1 := by
  have hnone : firstFree (fun e : PoolEntry UInt8 StreamInfo => e.used != 1) 10 t = none ↔
      ∀ i < 10, (t i).used = 1 := by
    rw [firstFree_eq_none_iff]
    simp
  cases h : firstFree (fun e : PoolEntry UInt8 StreamInfo => e.used != 1) 10 t with
  | none =>
    rw [allocateStream, getFreeStream, take_of_none h]
    have hall := hnone.mp h
    refine iff_of_false (fun hne => hne rfl) ?_
    rintro ⟨i, hi, hne⟩
    exact hne (hall i hi)
  | some i =>
    rw [allocateStream, getFreeStream, take_of_some h]
    obtain ⟨hi, hfree, -⟩ := firstFree_eq_some_iff.mp h
    refine iff_of_true (Option.some_ne_none _) ⟨i, hi, ?_⟩
    simpa using hfree

theorem getFreeReservation_allocates_iff {x : Pointer}
    {t : ℕ → PoolEntry Int32 (Reservation n)} :
    Allocates PoolEntry.IsUsed reservationCount t (getFreeReservation x t) ↔
      (∃ i < reservationCount, (t i).used = 0) ∨ x = .null := by
  have hfree : ∀ e : PoolEntry Int32 (Reservation n), (e.used == 0) = true ↔ ¬ e.IsUsed := by
    intro e
    rw [isUsed_iff, beq_iff_eq]
  have hmark : ∀ _ : PoolEntry Int32 (Reservation n),
      (⟨1, Reservation.zero n⟩ : PoolEntry Int32 (Reservation n)).IsUsed := by
    intro _
    show (1 : Int32) ≠ 0
    decide
  have hsize : reservationCount ≤ 30 := le_refl 30
  rw [getFreeReservation, take_allocates_iff_of_exact hmark hfree hsize]
  simp only [isUsed_iff]
  constructor
  · rintro (hroom | ⟨-, hnull⟩)
    · exact Or.inl hroom
    · exact Or.inr hnull
  · rintro (hroom | hnull)
    · exact Or.inl hroom
    · by_cases hroom : ∃ i < reservationCount, (t i).used = 0
      · exact Or.inl hroom
      · refine Or.inr ⟨?_, hnull⟩
        intro i hi hzero
        exact hroom ⟨i, hi, hzero⟩

theorem getFreeAttribute_allocates_iff {t : ℕ → PoolEntry UInt8 MadMachine}
    {write : MadMachine → MadMachine} :
    Allocates PoolEntry.IsUsed machineCount t (getFreeAttribute write t) ↔
      (∃ i < machineCount, (t i).used = 0) ∨ ∀ i < mrpMaxAttrs, (t i).used ≠ 0 := by
  have hfree : ∀ e : PoolEntry UInt8 MadMachine, (e.used == 0) = true ↔ ¬ e.IsUsed := by
    intro e
    rw [isUsed_iff, beq_iff_eq]
  have hmark : ∀ e : PoolEntry UInt8 MadMachine,
      (⟨1, write e.fields⟩ : PoolEntry UInt8 MadMachine).IsUsed := by
    intro e
    show (1 : UInt8) ≠ 0
    decide
  have hsize : machineCount ≤ mrpMaxAttrs := by decide
  rw [getFreeAttribute, take_allocates_iff_of_exact hmark hfree hsize]
  simp only [PoolEntry.IsUsed, not_not, and_true]

/-- The pools are safe when there is room in them. -/
theorem pools_safe_iff (T : PoolTables n) (signed : Bool) (attrType : AttributeType)
    (fv : ℕ → UInt8) (num : ℕ) : T.Safe signed attrType fv num ↔ T.HasRoom := by
  constructor
  · intro hsafe
    refine ⟨?_, ?_, ?_⟩
    · rcases getFreeStream_allocates_iff.mp hsafe.stream with hroom | hall
      · exact hroom
      · -- all ten are used, and the allocation writes through NULL
        obtain ⟨i, hi, hne⟩ := allocateStream_ne_none_iff.mp hsafe.notNull
        exact absurd (hall i hi) hne
    · exact getFreeReservation_allocates_iff.mp hsafe.reservation
    · exact getFreeAttribute_allocates_iff.mp hsafe.app
  · intro hroom
    refine ⟨?_, ?_, ?_, ?_, ?_⟩
    · exact getFreeStream_allocates_iff.mpr (Or.inl hroom.stream)
    · exact getFreeReservation_allocates_iff.mpr hroom.reservation
    · exact getFreeAttribute_allocates_iff.mpr hroom.machine
    · exact getFreeAttribute_allocates_iff.mpr hroom.machine
    · obtain ⟨i, hi, hzero, -⟩ := hroom.stream
      refine allocateStream_ne_none_iff.mpr ⟨i, hi.trans (by decide), ?_⟩
      rw [hzero]
      decide

/-- The tables when every declared entry is used and zeros lie behind them. -/
def exhaustedPools : PoolTables 1 where
  streams := fun i => ⟨if i < streamCount then 1 else 0, StreamInfo.zero⟩
  reservations := fun i => ⟨if i < reservationCount then 1 else 0, Reservation.zero 1⟩
  machines := fun i => ⟨if i < machineCount then 1 else 0, MadMachine.zero⟩
  notReturned := .elsewhere

/-- The sixth stream is outside the array. -/
theorem exhaustedPools_unsafe :
    ¬ ∀ (T : PoolTables 1) (signed : Bool) (attrType : AttributeType) (fv : ℕ → UInt8) (num : ℕ),
      T.Safe signed attrType fv num := by
  intro hall
  have hsafe := hall exhaustedPools false .talkerAdvertise (fun _ => 0) 0
  rcases getFreeStream_allocates_iff.mp hsafe.stream with ⟨i, hi, hzero, -⟩ | hused
  · have hone : (exhaustedPools.streams i).used = 1 := if_pos hi
    rw [hone] at hzero
    exact absurd hzero (by decide)
  · have hfifth := hused 5 (by decide)
    exact absurd hfifth (by decide)

end Conditions

/-! ### Within the arrays -/

section Refinement

variable {T : PoolTables n} {t : State n} {p : Fin n}

/-- An entry with its Boolean as an integer. -/
def PoolEntry.ofBool {φ ρ : Type} [OfNat φ 0] [OfNat φ 1] (used : Bool) (fields : ρ) :
    PoolEntry φ ρ := ⟨if used then 1 else 0, fields⟩

def StreamInfo.poolEntry (s : StreamInfo) : PoolEntry UInt8 StreamInfo :=
  .ofBool s.used { s with used := false }

def Reservation.poolEntry (r : Reservation n) : PoolEntry Int32 (Reservation n) :=
  .ofBool r.used { r with used := false }

def MadMachine.poolEntry (m : MadMachine) : PoolEntry UInt8 MadMachine :=
  .ofBool m.used { m with used := false }

/-- The tables hold a state of the model and the machines of one of its participants. -/
structure PoolTables.Represents (T : PoolTables n) (t : State n) (p : Fin n) : Prop where
  streams : ∀ i : Fin 10, T.streams i = (t.streamInfoVars i).poolEntry
  reservations : ∀ i : Fin 30, T.reservations i = (t.reservations i).poolEntry
  machines : ∀ i : Fin 24, T.machines i = (t.machine p (.slot i)).poolEntry

/-- The scan of the streams, as far as it stays within the array. -/
theorem getFreeStream_refines (h : T.Represents t p) (i : Fin 10) :
    vtssMsrpGetFreeStream t = some i ↔
      (getFreeStream T.streams).2 = .entry i ∧ (i : ℕ) < streamCount := by
  have htest : ∀ k : Fin 10, decide ((t.streamInfoVars k).used = false) =
      ((T.streams k).used != 1) := by
    intro k
    rw [h.streams k, StreamInfo.poolEntry]
    cases hused : (t.streamInfoVars k).used with
    | false => rfl
    | true => rfl
  rw [getFreeStream, take_snd rfl, firstFree_eq_find?_finRange htest, vtssMsrpGetFreeStream]
  simp only [Option.filter_eq_some_iff, Option.map_eq_some_iff, decide_eq_true_eq]
  constructor
  · rintro ⟨hfind, hi⟩
    exact ⟨⟨i, hfind, rfl⟩, hi⟩
  · rintro ⟨⟨k, hfind, hk⟩, hi⟩
    obtain rfl : k = i := Fin.ext hk
    exact ⟨hfind, hi⟩

theorem allocateStream_refines (h : T.Represents t p) {signed : Bool} {attrType : AttributeType}
    {fv : ℕ → UInt8} {num : ℕ} {t' : State n} {i : Fin 10}
    (halloc : vtssMsrpAllocateStream signed t attrType fv num = some (t', i)) :
    ∃ streams, allocateStream signed T.streams attrType fv num = some (streams, (i : ℕ)) ∧
      { T with streams := streams }.Represents t' p := by
  obtain ⟨k, hfind, heq⟩ := Option.map_eq_some_iff.mp halloc
  obtain ⟨rfl, rfl⟩ := Prod.mk.inj heq
  have hentry := ((getFreeStream_refines h k).mp hfind).1
  have hfirst := (take_snd rfl).mp hentry
  have htake : getFreeStream T.streams = (Function.update T.streams k
      { T.streams k with used := 1 }, .entry k) := take_of_some hfirst
  rw [allocateStream, htake]
  refine ⟨_, rfl, ?_, h.reservations, h.machines⟩
  intro j
  show Function.update (Function.update T.streams k _) k _ j = _
  rw [Function.update_idem, Function.update_self]
  by_cases hj : j = k
  · subst hj
    rw [Function.update_self, h.streams j, State.setStream]
    simp only [Function.update_self]
    cases attrType <;> rfl
  · have hne : (j : ℕ) ≠ k := fun heq => hj (Fin.ext heq)
    rw [Function.update_of_ne hne, h.streams j, State.setStream]
    simp only [Function.update_of_ne hj]

/-- The scan of the reservations, as far as it returns something. -/
theorem getFreeReservation_refines (h : T.Represents t p) :
    (getFreeReservation T.notReturned T.reservations).2 =
      ((msrpGetFreeReservation t).map fun i => Pointer.entry i).getD T.notReturned := by
  have htest : ∀ k : Fin 30, decide ((t.reservations k).used = false) =
      ((T.reservations k).used == 0) := by
    intro k
    rw [h.reservations k, Reservation.poolEntry]
    cases hused : (t.reservations k).used with
    | false => rfl
    | true => rfl
  have hfirst : firstFree (fun e : PoolEntry Int32 (Reservation n) => e.used == 0) 30
      T.reservations = _ := firstFree_eq_find?_finRange htest
  rw [getFreeReservation, msrpGetFreeReservation]
  cases hfind : (List.finRange 30).find? fun k => decide ((t.reservations k).used = false) with
  | none =>
    rw [hfind] at hfirst
    rw [take_of_none hfirst]
    rfl
  | some k =>
    rw [hfind] at hfirst
    rw [take_of_some hfirst]
    rfl

/-- The scan of the machines, as far as it stays within the array.  `write` is what the
function does to the machine besides. -/
theorem getFreeAttribute_refines (h : T.Represents t p) {write : MadMachine → MadMachine}
    {i : Fin 24} (hwrite : ∀ m, write { m with used := false } = { write m with used := false })
    (hfind : firstUnused t p = some i) :
    (getFreeAttribute write T.machines).2 = .entry i ∧
      { T with machines := (getFreeAttribute write T.machines).1 }.Represents
        (t.setMachine p (.slot i) { write (t.machine p (.slot i)) with used := true }) p := by
  have htest : ∀ k : Fin 24, decide ((t.machine p (.slot k)).used = false) =
      ((T.machines k).used == 0) := by
    intro k
    rw [h.machines k, MadMachine.poolEntry]
    cases hused : (t.machine p (.slot k)).used with
    | false => rfl
    | true => rfl
  have hshort : firstFree (fun e : PoolEntry UInt8 MadMachine => e.used == 0) 24 T.machines =
      some (i : ℕ) := by
    rw [firstFree_eq_find?_finRange htest]
    rw [firstUnused] at hfind
    rw [hfind]
    rfl
  -- the longer scan stops at the same machine
  obtain ⟨hi, hfree, hbefore⟩ := firstFree_eq_some_iff.mp hshort
  have hfirst : firstFree (fun e : PoolEntry UInt8 MadMachine => e.used == 0) mrpMaxAttrs
      T.machines = some (i : ℕ) :=
    firstFree_eq_some_iff.mpr ⟨hi.trans (by decide), hfree, hbefore⟩
  rw [getFreeAttribute, take_of_some hfirst]
  refine ⟨rfl, h.streams, h.reservations, ?_⟩
  intro k
  show Function.update T.machines i _ k = _
  by_cases hk : k = i
  · subst hk
    rw [Function.update_self, State.setMachine_machine_self, h.machines k]
    exact congrArg (PoolEntry.mk 1) (hwrite (t.machine p (.slot k)))
  · have hne : (k : ℕ) ≠ i := fun heq => hk (Fin.ext heq)
    rw [Function.update_of_ne hne, State.setMachine_machine,
      if_neg fun heq => hk (MachineRef.slot.inj heq.2)]
    exact h.machines k

theorem getFreeAttributeApp_refines (h : T.Represents t p) {t' : State n} {i : Fin 24}
    (happ : getAttributeApp t p = some (t', i)) :
    (getFreeAttributeApp T.machines).2 = .entry i ∧
      { T with machines := (getFreeAttributeApp T.machines).1 }.Represents t' p := by
  obtain ⟨k, hfind, heq⟩ := Option.map_eq_some_iff.mp happ
  obtain ⟨rfl, rfl⟩ := Prod.mk.inj heq
  exact getFreeAttribute_refines h (fun _ => rfl) hfind

theorem getFreeAttributeReg_refines (h : T.Represents t p) {t' : State n} {i : Fin 24}
    (hreg : getAttributeReg t p = some (t', i)) :
    (getFreeAttributeReg T.machines).2 = .entry i ∧
      { T with machines := (getFreeAttributeReg T.machines).1 }.Represents t' p := by
  obtain ⟨k, hfind, heq⟩ := Option.map_eq_some_iff.mp hreg
  obtain ⟨rfl, rfl⟩ := Prod.mk.inj heq
  exact getFreeAttribute_refines h (fun _ => rfl) hfind

end Refinement

end Msrp
