/-
The signed functions of the 64-bit arithmetic of vtss_gptp.c, and the products of two words.

The upper word of an `_INT64` is an `int`, and that of a `_UINT64` an `unsigned long`; both have
32 bits and are kept as the same word (`TdUint64`).  A word is made an `Int32` where the source
looks at its sign.  Sums of `int`s wrap around, and shifts of them to the right keep the sign.
-/
import AvbSwitch.PtpArithmetic

namespace Gptp

/-- `INT64_NEGATIVE_ONE`. -/
def TdUint64.negativeOne : TdUint64 := ⟨0xFFFFFFFF, 0xFFFFFFFF⟩

/-- `Int32ToInt64`. -/
def int32ToInt64 (w : Int32) : TdUint64 := ⟨if w < 0 then 0xFFFFFFFF else 0, w.toUInt32⟩

/-- `Int64ToInt32`. -/
def int64ToInt32 (a : TdUint64) : Int32 := a.lowPart.toInt32

/-- `Int64Less` of two numbers with a sign. -/
def int64Less (a b : TdUint64) : Bool :=
  a.highPart.toInt32 < b.highPart.toInt32 ∨ (a.highPart = b.highPart ∧ a.lowPart < b.lowPart)

/-- `Uint64Less`; also what `Int64Less` is if one of the two upper words has no sign. -/
def uint64Less (a b : TdUint64) : Bool :=
  a.highPart < b.highPart ∨ (a.highPart = b.highPart ∧ a.lowPart < b.lowPart)

/-- `Uint64Or`. -/
def uint64Or (a b : TdUint64) : TdUint64 where
  highPart := a.highPart ||| b.highPart
  lowPart := a.lowPart ||| b.lowPart

/-! ### Signs -/

/-- `neg ? ~high + !low : high`, and `neg ? -low : low`. -/
def muxNegate (neg : Bool) (a : TdUint64) : TdUint64 where
  highPart := if neg then ~~~a.highPart + (if a.lowPart = 0 then 1 else 0) else a.highPart
  lowPart := if neg then 0 - a.lowPart else a.lowPart

/-- `(v1 ^ v2) >> 31`: the sign of a product or of a quotient. -/
def signOf (v1 v2 : UInt32) : Bool := (v1 ^^^ v2).toInt32 >>> 31 ≠ 0

/-- `high < 0`. -/
def TdUint64.neg (a : TdUint64) : Bool := a.highPart.toInt32 < 0

/-- `iabs`. -/
def iabs (w : Int32) : Int32 := if w < 0 then 0 - w else w

/-! ### Products -/

/-- `long_multiply`. -/
def longMultiply (v1 v2 : UInt32) : TdUint64 :=
  let a := (v1 >>> 16) &&& 0xFFFF
  let b := v1 &&& 0xFFFF
  let c := (v2 >>> 16) &&& 0xFFFF
  let d := v2 &&& 0xFFFF
  let lowPart := b * d
  let x := a * d + c * b
  let y := ((lowPart >>> 16) &&& 0xFFFF) + x
  let carried := (y &&& 0xFFFF) <<< 16
  { lowPart := (lowPart &&& 0xFFFF) ||| carried
    highPart := ((y >>> 16) &&& 0xFFFF) + a * c }

/-- `Int64TimesInt64`. -/
def int64TimesInt64 (x y : TdUint64) : TdUint64 :=
  let sign := signOf x.highPart y.highPart
  let x := muxNegate x.neg x
  let y := muxNegate y.neg y
  muxNegate sign
    { lowPart := x.lowPart * y.lowPart
      highPart := x.lowPart * y.highPart + x.highPart * y.lowPart +
        longMultiplyHigh x.lowPart y.lowPart }

/-- `Int64TimesInt32`. -/
def int64TimesInt32 (x : TdUint64) (y : Int32) : TdUint64 :=
  let sign := signOf x.highPart y.toUInt32
  let x := muxNegate x.neg x
  let y := (iabs y).toUInt32
  muxNegate sign
    { lowPart := x.lowPart * y
      highPart := x.highPart * y + longMultiplyHigh x.lowPart y }

/-- `Uint64TimesUint64`. -/
def uint64TimesUint64 (x y : TdUint64) : TdUint64 where
  lowPart := x.lowPart * y.lowPart
  highPart := x.lowPart * y.highPart + x.highPart * y.lowPart +
    longMultiplyHigh x.lowPart y.lowPart

/-! ### Sums and differences -/

/-- `UInt64Add`. -/
def uInt64Add (x y : TdUint64) : TdUint64 where
  highPart := x.highPart + (y.highPart + carry x.lowPart y.lowPart)
  lowPart := x.lowPart + y.lowPart

/-- `Int64Add`. -/
def int64Add (x y : TdUint64) : TdUint64 where
  highPart := x.highPart + (y.highPart + carry x.lowPart y.lowPart)
  lowPart := x.lowPart + y.lowPart

/-- `Int64AddInt32`. -/
def int64AddInt32 (x : TdUint64) (y : Int32) : TdUint64 := int64Add x (int32ToInt64 y)

/-- `Uint64SubtractUint32`. -/
def uint64SubtractUint32 (x : TdUint64) (y : UInt32) : TdUint64 where
  highPart := x.highPart - borrow x.lowPart y
  lowPart := x.lowPart - y

/-! ### Shifts -/

/-- `Int64RShift`. -/
def int64RShift (x : TdUint64) (n : Int32) : TdUint64 :=
  let high := x.highPart.toInt32
  if n &&& 63 ≠ n then (if 0 ≤ high then .zero else .negativeOne)
  else if 31 < n then ⟨(high >>> 31).toUInt32, (high >>> (n - 32)).toUInt32⟩
  else if n ≠ 0 then
    ⟨(high >>> n).toUInt32, (x.lowPart >>> n.toUInt32) ||| (high <<< (32 - n)).toUInt32⟩
  else x

/-! ### Division -/

/-- `Int64DivMod`: quotient and remainder. -/
def int64DivMod (x y : TdUint64) : TdUint64 × TdUint64 :=
  let sign := signOf x.highPart y.highPart
  let quotient := uint64DivMod (muxNegate x.neg x) (muxNegate y.neg y)
  (muxNegate sign quotient.1, muxNegate x.neg quotient.2)

/-- `Int64DividedByInt64`. -/
def int64DividedByInt64 (x y : TdUint64) : TdUint64 := (int64DivMod x y).1

/-- `Int64DividedByInt32`. -/
def int64DividedByInt32 (x : TdUint64) (y : Int32) : TdUint64 :=
  int64DividedByInt64 x ⟨(y >>> 31).toUInt32, y.toUInt32⟩

end Gptp
