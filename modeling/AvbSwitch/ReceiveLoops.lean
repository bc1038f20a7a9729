/-
The loops of `vtss_msrp_receive`: what a frame is taken apart into.

Where the loops go depends on the frame only, not on what is done with the values, so
they are modelled as a function from the frame to the list of what they come across:
LeaveAll events and attribute values, in order.
-/
import AvbSwitch.SendBuffer

namespace Msrp

open Octets

/-- `decode_threepacked` (`b = 6`, `k = 3`) and `decode_fourpacked` (`b = 4`, `k = 4`), with
the division and the remainder of C. -/
def decodePacked (b k : ℕ) (vector : ℤ) (i : ℕ) : ℤ :=
  ((fun v => v.tdiv b)^[k - 1 - i] vector).tmod b

def decodeThreepacked (vector : ℤ) (i : ℕ) : ℤ := decodePacked 6 3 vector i

def decodeFourpacked (vector : ℤ) (i : ℕ) : ℤ := decodePacked 4 4 vector i

/-- A value as the innermost loop sees it. -/
structure RxValue where
  attrType : AttributeType
  /-- the first value of the vector -/
  firstValue : ℕ → UInt8
  /-- the value's number in the vector -/
  i : ℕ
  threePackedEvent : ℤ
  fourPackedEvent : ℤ

/-- What the loops come across. -/
inductive RxItem
  | leaveAll (attrType : AttributeType)
  | value (v : RxValue)

/-- `numvalues` of the vector header at `msg`. -/
def numvalues (m : Mem) (msg : ℕ) : ℕ := ((m msg &&& 0x1f).toNat <<< 8) + (m (msg + 1)).toNat

/-- `leave_all` of the vector header at `msg`. -/
def leaveAllEvent (m : Mem) (msg : ℕ) : ℕ := (m msg &&& 0xe0).toNat >>> 5

def threepackedLen (numvalues : ℕ) : ℕ := (numvalues + 2) / 3

def fourpackedLen (attrType : AttributeType) (numvalues : ℕ) : ℕ :=
  if hasFourpackedEvents attrType then (numvalues + 3) / 4 else 0

/-- `len`, the octets of a vector from its header to its last packed event. -/
def vectorLen (attrType : AttributeType) (firstValueLen numvalues : ℕ) : ℕ :=
  2 + firstValueLen + threepackedLen numvalues + fourpackedLen attrType numvalues

/-- Value `i` of the vector at `msg`. -/
def rxValue (signed : Bool) (m : Mem) (attrType : AttributeType) (firstValueLen msg i : ℕ) :
    RxValue :=
  let fv := at_ m (msg + 2)
  let threeLen := threepackedLen (numvalues m msg)
  { attrType := attrType
    firstValue := fv
    i := i
    threePackedEvent :=
      decodeThreepacked (charVal signed (fv (firstValueLen + i / 3))) (i % 3)
    fourPackedEvent :=
      if hasFourpackedEvents attrType then
        decodeFourpacked (charVal signed (fv (firstValueLen + threeLen + i / 4))) (i % 4)
      else 0 }

/-- What one vector gives: a LeaveAll if its header says so, then its values. -/
def vectorItems (signed : Bool) (m : Mem) (attrType : AttributeType) (firstValueLen msg : ℕ) :
    List RxItem :=
  (if leaveAllEvent m msg ≠ 0 then [.leaveAll attrType] else []) ++
    (List.range (numvalues m msg)).map fun i =>
      .value (rxValue signed m attrType firstValueLen msg i)

/-- The loop over the vectors of a message: what it gives, and where it stops.  Where it
would run over the end of the frame the function returns, and there is no such place. -/
def vectorLoop (signed : Bool) (m : Mem) (fin : ℕ) (attrType : AttributeType)
    (firstValueLen : ℕ) : ℕ → ℕ → List RxItem × Option ℕ
  | 0, _ => ([], none)
  | fuel + 1, msg =>
    if msg < fin ∧ (m msg ≠ 0 ∨ m (msg + 1) ≠ 0) then
      let len := vectorLen attrType firstValueLen (numvalues m msg)
      if fin < msg + len then ([], none)
      else
        let (items, stop) := vectorLoop signed m fin attrType firstValueLen fuel (msg + len)
        (vectorItems signed m attrType firstValueLen msg ++ items, stop)
    else ([], some msg)

/-- The loop over the messages. -/
def messageLoop (signed : Bool) (m : Mem) (fin : ℕ) : ℕ → ℕ → List RxItem
  | 0, _ => []
  | fuel + 1, msg =>
    if msg < fin ∧ (m msg ≠ 0 ∨ m (msg + 1) ≠ 0) then
      match decodeAttrType (m msg).toNat with
      | none => []
      | some attrType =>
        match vectorLoop signed m fin attrType (m (msg + 1)).toNat (fin + 1) (msg + 4) with
        | (items, none) => items
        | (items, some next) => items ++ messageLoop signed m fin fuel (next + 2)
    else []

/-- What a frame of length `len` is taken apart into, from behind `mrp_header` on. -/
def rxItems (signed : Bool) (rxframe : Mem) (len : ℕ) : List RxItem :=
  messageLoop signed rxframe len (len + 1) 1

/-- The StreamID of value `num` of a vector, as `vtss_msrp_find_stream` and
`vtss_msrp_allocate_stream` put it together.  The octets are plain `char`s. -/
def wireStreamID (signed : Bool) (fv : ℕ → UInt8) (num : ℕ) : UInt32 × UInt32 :=
  (shiftIn (charWord signed (fv 0)) (charWord signed (fv 1)) (charWord signed (fv 2))
      (charWord signed (fv 3)),
    shiftIn (charWord signed (fv 4)) (charWord signed (fv 5)) (charWord signed (fv 6))
      (charWord signed (fv 7)) + UInt32.ofNat num)

/-! ### The loops come to an end -/

section Fuel

variable {signed : Bool} {m : Mem} {fin : ℕ} {attrType : AttributeType} {firstValueLen : ℕ}

/-- A vector is at least two octets long, so a larger fuel makes no difference. -/
theorem vectorLoop_fuel : ∀ {fuel msg : ℕ}, fin ≤ msg + fuel →
    vectorLoop signed m fin attrType firstValueLen (fuel + 2) msg =
      vectorLoop signed m fin attrType firstValueLen (fuel + 1) msg := by
  intro fuel
  induction fuel with
  | zero =>
    intro msg h
    rw [vectorLoop, if_neg (by omega), vectorLoop, if_neg (by omega)]
  | succ fuel ih =>
    intro msg h
    rw [vectorLoop, vectorLoop]
    split
    · have hlen : 2 ≤ vectorLen attrType firstValueLen (numvalues m msg) := by
        rw [vectorLen]
        omega
      simp only [ih (show fin ≤ msg + vectorLen attrType firstValueLen (numvalues m msg) + fuel
        by omega)]
    · rfl

/-- The vectors of a message are passed over upwards. -/
theorem le_of_vectorLoop : ∀ {fuel msg next : ℕ},
    (vectorLoop signed m fin attrType firstValueLen fuel msg).2 = some next → msg ≤ next := by
  intro fuel
  induction fuel with
  | zero =>
    intro msg next h
    simp [vectorLoop] at h
  | succ fuel ih =>
    intro msg next h
    rw [vectorLoop] at h
    split at h
    · dsimp only at h
      split at h
      · simp at h
      · have := ih h
        omega
    · simp only [Option.some_inj] at h
      omega

/-- A message is at least six octets long, so a larger fuel makes no difference. -/
theorem messageLoop_fuel : ∀ {fuel msg : ℕ}, fin ≤ msg + fuel →
    messageLoop signed m fin (fuel + 2) msg = messageLoop signed m fin (fuel + 1) msg := by
  intro fuel
  induction fuel with
  | zero =>
    intro msg h
    rw [messageLoop, if_neg (by omega), messageLoop, if_neg (by omega)]
  | succ fuel ih =>
    intro msg h
    rw [messageLoop, messageLoop]
    split
    · rcases decodeAttrType (m msg).toNat with _ | attrType
      · rfl
      · dsimp only
        rcases hloop : vectorLoop signed m fin attrType (m (msg + 1)).toNat (fin + 1) (msg + 4)
          with ⟨items, _ | next⟩
        · rfl
        · have hle : msg + 4 ≤ next := le_of_vectorLoop (by rw [hloop])
          simp only [ih (show fin ≤ next + 2 + fuel by omega)]
    · rfl

end Fuel

/-! ### Decoding -/

/-- A non-negative packed octet is decoded by division and remainder. -/
theorem decodePacked_natCast (b k v i : ℕ) :
    decodePacked b k (v : ℤ) i = ((v / b ^ (k - 1 - i) % b : ℕ) : ℤ) := by
  have hdiv : ∀ j, (fun w : ℤ => w.tdiv b)^[j] (v : ℤ) = ((v / b ^ j : ℕ) : ℤ) := by
    intro j
    induction j with
    | zero => simp
    | succ j ih =>
      rw [Function.iterate_succ_apply', ih, pow_succ, ← Nat.div_div_eq_div_mul]
      exact (Int.ofNat_tdiv _ _).symm
  rw [decodePacked, hdiv]
  exact (Int.ofNat_tmod _ _).symm

/-- The division of C rounds towards zero, so a sign goes through the decoding. -/
theorem decodePacked_neg (b k : ℕ) (v : ℤ) (i : ℕ) :
    decodePacked b k (-v) i = -decodePacked b k v i := by
  have hdiv : ∀ j, (fun w : ℤ => w.tdiv b)^[j] (-v) = -(fun w : ℤ => w.tdiv b)^[j] v := by
    intro j
    induction j with
    | zero => rfl
    | succ j ih =>
      rw [Function.iterate_succ_apply', Function.iterate_succ_apply', ih]
      exact Int.neg_tdiv _ _
  rw [decodePacked, decodePacked, hdiv, Int.neg_tmod]

/-- A negative packed octet is decoded to something that is not positive. -/
theorem decodePacked_nonpos {b k i : ℕ} {v : ℤ} (hv : v ≤ 0) : decodePacked b k v i ≤ 0 := by
  obtain ⟨w, rfl⟩ : ∃ w : ℕ, v = -(w : ℤ) := ⟨v.natAbs, by omega⟩
  rw [decodePacked_neg, decodePacked_natCast]
  omega

end Msrp
