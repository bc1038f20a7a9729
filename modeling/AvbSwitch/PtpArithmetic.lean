/-
The 64-bit arithmetic and the timestamps of vtss_gptp.c.

A number of 64 bits is kept in two words of 32 (`TdUint64`); `_INT64` is the same pair of
words, and converting between the two copies the bits.  Timestamps go in and out of a frame
octet by octet through pointers into the words, so that the order of the octets in a word
of the host is a parameter (`bigEndian`).
-/
import AvbSwitch.Octets

open Octets

namespace Gptp

/-! ### Two words for a number -/

/-- `_UINT64`, and `_INT64` in two's complement. -/
structure TdUint64 where
  highPart : UInt32
  lowPart : UInt32
  deriving DecidableEq, Repr

/-- `UINT64_ZERO`. -/
def TdUint64.zero : TdUint64 := ⟨0, 0⟩

/-- `UINT64_MIN`. -/
def TdUint64.min : TdUint64 := ⟨0x80000000, 0⟩

/-- `Uint32ToUint64`. -/
def uint32ToUint64 (w : UInt32) : TdUint64 := ⟨0, w⟩

/-- `carry`. -/
def carry (a b : UInt32) : UInt32 := if a + b < a then 1 else 0

/-- `borrow`. -/
def borrow (a b : UInt32) : UInt32 := if a < b then 1 else 0

/-- `long_multiply_high`. -/
def longMultiplyHigh (v1 v2 : UInt32) : UInt32 :=
  let a := (v1 >>> 16) &&& 0xFFFF
  let b := v1 &&& 0xFFFF
  let c := (v2 >>> 16) &&& 0xFFFF
  let d := v2 &&& 0xFFFF
  let lowPart := b * d
  -- the middle products are added up in one word as well
  let x := a * d + c * b
  let y := ((lowPart >>> 16) &&& 0xFFFF) + x
  ((y >>> 16) &&& 0xFFFF) + a * c

/-- `Uint64TimesUint32`. -/
def uint64TimesUint32 (x : TdUint64) (y : UInt32) : TdUint64 where
  lowPart := x.lowPart * y
  highPart := x.highPart * y + longMultiplyHigh x.lowPart y

/-- `Uint64AddUint32`. -/
def uint64AddUint32 (x : TdUint64) (y : UInt32) : TdUint64 where
  highPart := x.highPart + carry x.lowPart y
  lowPart := x.lowPart + y

/-- `Int64Subtract`. -/
def int64Subtract (x y : TdUint64) : TdUint64 where
  highPart := x.highPart - (y.highPart + borrow x.lowPart y.lowPart)
  lowPart := x.lowPart - y.lowPart

/-- `Uint64RShift`. -/
def uint64RShift (x : TdUint64) (n : UInt32) : TdUint64 :=
  if n &&& 63 ≠ n then .zero
  else if 31 < n then ⟨0, x.highPart >>> (n - 32)⟩
  else if n ≠ 0 then ⟨x.highPart >>> n, (x.lowPart >>> n) ||| (x.highPart <<< (32 - n))⟩
  else x

/-- `Int64LShift`. -/
def int64LShift (x : TdUint64) (n : UInt32) : TdUint64 :=
  if n &&& 63 ≠ n then .zero
  else if 31 < n then ⟨x.lowPart <<< (n - 32), 0⟩
  else if n ≠ 0 then ⟨(x.highPart <<< n) ||| (x.lowPart >>> (32 - n)), x.lowPart <<< n⟩
  else x

/-- `Uint64LShift`. -/
def uint64LShift (x : TdUint64) (n : UInt32) : TdUint64 := int64LShift x n

/-! ### Division -/

/-- The index of the leftmost bit, as `Uint64DivMod` searches for it. -/
def leftmostBit (w : UInt32) : ℕ :=
  let i := if w >>> 16 ≠ 0 then 24 else 8
  let i := if w >>> UInt32.ofNat i ≠ 0 then i + 4 else i - 4
  let i := if w >>> UInt32.ofNat i ≠ 0 then i + 2 else i - 2
  let i := if w >>> UInt32.ofNat i ≠ 0 then i + 1 else i - 1
  if w >>> UInt32.ofNat i = 0 then i - 1 else i

/-- What the loop of `Uint64DivMod` works on: the rest, the aligned divisor, the quotient. -/
structure DivModState where
  x : TdUint64
  y : TdUint64
  z : TdUint64

/-- One bit of the quotient. -/
def divModTurn (s : DivModState) : DivModState :=
  let xgey : Bool :=
    if s.x.highPart ≠ s.y.highPart then s.y.highPart < s.x.highPart
    else s.y.lowPart ≤ s.x.lowPart
  { z :=
      { highPart := s.z.highPart + (s.z.highPart + carry s.z.lowPart s.z.lowPart)
        lowPart := s.z.lowPart + (s.z.lowPart + if xgey then 1 else 0) }
    x :=
      { highPart :=
          s.x.highPart - if xgey then s.y.highPart + borrow s.x.lowPart s.y.lowPart else 0
        lowPart := s.x.lowPart - if xgey then s.y.lowPart else 0 }
    y :=
      { highPart := s.y.highPart >>> 1
        lowPart := (s.y.lowPart >>> 1) ||| (s.y.highPart <<< 31) } }

/-- `Uint64DivMod`: quotient and remainder. -/
def uint64DivMod (x y : TdUint64) : TdUint64 × TdUint64 :=
  if y = .zero then (if x = .zero then .zero else .min, .zero)
  else
    let x1ne0 : ℤ := if x.highPart ≠ 0 then 1 else 0
    let y1ne0 : ℤ := if y.highPart ≠ 0 then 1 else 0
    let i := leftmostBit (if x.highPart ≠ 0 then x.highPart else x.lowPart)
    let j := leftmostBit (if y.highPart ≠ 0 then y.highPart else y.lowPart)
    -- the misalignment of the two leading words, modulo the length of a word
    let shift := UInt32.ofInt (((i : ℤ) - j) % 32)
    let back := UInt32.ofInt ((32 - ((i : ℤ) - j)) % 32)
    let y : TdUint64 :=
      { highPart := (y.highPart <<< shift) ||| (if i ≠ j then y.lowPart >>> back else 0)
        lowPart := y.lowPart <<< shift }
    let n := (i : ℤ) - j + (x1ne0 - y1ne0) * 32
    let y : TdUint64 := if n < 32 then ⟨y.highPart, y.lowPart⟩ else ⟨y.lowPart, 0⟩
    let s := divModTurn^[(n + 1).toNat] ⟨x, y, .zero⟩
    (s.z, s.x)

/-- `Uint64DividedByUint64`. -/
def uint64DividedByUint64 (x y : TdUint64) : TdUint64 := (uint64DivMod x y).1

/-! ### Timestamps -/

/-- `vtss_ptp_time_t`. -/
structure PtpTime where
  secondsUpper : Int32
  secondsLower : UInt32
  nanoseconds : Int32
  deriving DecidableEq, Repr

/-- `ONE_BILLION`. -/
def oneBillion : Int32 := 0x3B9ACA00

/-- `normalize_timestamp`. -/
def normalizeTimestamp (operand : PtpTime) : PtpTime :=
  if operand.secondsUpper < 0 then
    if 0 < operand.nanoseconds then
      { secondsUpper := operand.secondsUpper + if operand.secondsLower = 0xFFFFFFFF then 1 else 0
        secondsLower := operand.secondsLower + 1
        nanoseconds := operand.nanoseconds - oneBillion }
    else operand
  else if 0 < operand.secondsUpper ∨ 0 < operand.secondsLower then
    if operand.nanoseconds < 0 then
      { secondsUpper := operand.secondsUpper - if operand.secondsLower = 0 then 1 else 0
        secondsLower := operand.secondsLower - 1
        nanoseconds := operand.nanoseconds + oneBillion }
    else operand
  else operand

/-- The carry out of the nanoseconds, in `timestamp_sum` and `timestamp_difference`. -/
def carryNanoseconds (t : PtpTime) : PtpTime :=
  if oneBillion ≤ t.nanoseconds then
    { secondsUpper := t.secondsUpper + if t.secondsLower = 0xFFFFFFFF then 1 else 0
      secondsLower := t.secondsLower + 1
      nanoseconds := t.nanoseconds - oneBillion }
  else if t.nanoseconds ≤ -oneBillion then
    { secondsUpper := t.secondsUpper - if t.secondsLower = 0 then 1 else 0
      secondsLower := t.secondsLower - 1
      nanoseconds := t.nanoseconds + oneBillion }
  else t

/-- `timestamp_sum`. -/
def timestampSum (addend augend : PtpTime) : PtpTime :=
  let secondsLower := addend.secondsLower + augend.secondsLower
  normalizeTimestamp (carryNanoseconds
    { secondsUpper := addend.secondsUpper + augend.secondsUpper +
        if secondsLower < addend.secondsLower then 1 else 0
      secondsLower := secondsLower
      nanoseconds := addend.nanoseconds + augend.nanoseconds })

/-- `timestamp_difference`. -/
def timestampDifference (minuend subtrahend : PtpTime) : PtpTime :=
  normalizeTimestamp (carryNanoseconds
    { secondsUpper := minuend.secondsUpper - subtrahend.secondsUpper -
        if minuend.secondsLower < subtrahend.secondsLower then 1 else 0
      secondsLower := minuend.secondsLower - subtrahend.secondsLower
      nanoseconds := minuend.nanoseconds - subtrahend.nanoseconds })

/-- `timestamp_abs`. -/
def timestampAbs (operand : PtpTime) : PtpTime :=
  let seconds : PtpTime :=
    if operand.secondsUpper < 0 then
      { operand with
        secondsUpper := ~~~operand.secondsUpper + if ~~~operand.secondsLower = 0xFFFFFFFF then 1 else 0
        secondsLower := ~~~operand.secondsLower + 1 }
    else operand
  { seconds with
    nanoseconds := if operand.nanoseconds < 0 then 0 - operand.nanoseconds else operand.nanoseconds }

/-! ### The octets of a word -/

/-- How far octet `k` of a word is shifted. -/
def octetShift (bigEndian : Bool) (k : ℕ) : UInt32 :=
  UInt32.ofNat (if bigEndian then 24 - 8 * k else 8 * k)

/-- Octet `k` of a word in memory. -/
def octetOf (bigEndian : Bool) (w : UInt32) (k : ℕ) : UInt8 :=
  (w >>> octetShift bigEndian k).toUInt8

/-- Write octet `k` of a word in memory. -/
def setOctet (bigEndian : Bool) (w : UInt32) (k : ℕ) (x : UInt8) : UInt32 :=
  (w &&& ~~~(0xFF <<< octetShift bigEndian k)) ||| (x.toUInt32 <<< octetShift bigEndian k)

/-- Write all four octets of a word. -/
def wordOf (bigEndian : Bool) (x0 x1 x2 x3 : UInt8) : UInt32 :=
  setOctet bigEndian (setOctet bigEndian (setOctet bigEndian (setOctet bigEndian 0 0 x0) 1 x1) 2 x2)
    3 x3

/-- Write the last two octets of the upper seconds; the first two stay. -/
def setUpper (bigEndian : Bool) (w : Int32) (x2 x3 : UInt8) : Int32 :=
  (setOctet bigEndian (setOctet bigEndian w.toUInt32 2 x2) 3 x3).toInt32

/-- `get_timestamp`: the ten octets at `a`, written over `ts`. -/
def getTimestamp (bigEndian : Bool) (m : Mem) (a : ℕ) (ts : PtpTime) : PtpTime where
  secondsUpper := setUpper bigEndian ts.secondsUpper (m a) (m (a + 1))
  secondsLower := wordOf bigEndian (m (a + 2)) (m (a + 3)) (m (a + 4)) (m (a + 5))
  nanoseconds := (wordOf bigEndian (m (a + 6)) (m (a + 7)) (m (a + 8)) (m (a + 9))).toInt32

/-- The ten octets that `put_timestamp` stores. -/
def putTimestamp (bigEndian : Bool) (ts : PtpTime) : List UInt8 :=
  let upper := octetOf bigEndian ts.secondsUpper.toUInt32
  let lower := octetOf bigEndian ts.secondsLower
  let nsec := octetOf bigEndian ts.nanoseconds.toUInt32
  [upper 2, upper 3, lower 0, lower 1, lower 2, lower 3, nsec 0, nsec 1, nsec 2, nsec 3]

theorem putTimestamp_length {bigEndian : Bool} {ts : PtpTime} :
    (putTimestamp bigEndian ts).length = 10 := rfl

/-- `get_32_into_timestamp`: eight octets, of which a value of thirty-two bits has only the first
four; the others lie behind it. -/
def get32IntoTimestamp (bigEndian : Bool) (value : UInt32) (behind : Vector UInt8 4)
    (timestamp : PtpTime) : PtpTime :=
  let source := octetOf bigEndian value
  { secondsUpper := setUpper bigEndian timestamp.secondsUpper (source 0) (source 1)
    secondsLower := wordOf bigEndian (source 2) (source 3) behind[0] behind[1]
    nanoseconds := (wordOf bigEndian behind[2] behind[3] 0 0).toInt32 }

/-- `get_rtc_time`: the octets of `time_since_boot`, written over `time`. -/
def getRtcTime (bigEndian : Bool) (source : Vector UInt8 4) (time : PtpTime) : PtpTime where
  secondsUpper := setUpper bigEndian time.secondsUpper source[0] source[1]
  secondsLower := wordOf bigEndian source[0] source[1] source[2] source[3]
  nanoseconds := (wordOf bigEndian source[3] source[2] source[1] source[0]).toInt32

end Gptp
