/-!
# Binary32 numbers

Single-precision numbers as their bit patterns. Conversions round to nearest, ties to even, in exact
integer arithmetic.
-/

namespace ContentLayers

structure Binary32 where
  bits : UInt32
  deriving DecidableEq, Repr, Inhabited

namespace Binary32

def isNaN (x : Binary32) : Bool := 0x7F800000 < (x.bits &&& 0x7FFFFFFF)

def isZero (x : Binary32) : Bool := x.bits &&& 0x7FFFFFFF == 0

/-- Equality of the numbers: the zeros are equal, and NaN equals nothing. -/
def same (x y : Binary32) : Bool :=
  !x.isNaN && !y.isNaN && (x.bits == y.bits || (x.isZero && y.isZero))

/-- The natural number nearest to `m` divided by the `k`-th power of two. -/
def roundShift (m k : Nat) : Nat :=
  let unit := 1 <<< k
  let q := m / unit
  let r := m % unit
  if unit < 2 * r || (unit == 2 * r && q % 2 == 1) then q + 1 else q

/-- The number nearest to `m` times the `e`-th power of two, negated when `negative`. The exponent
field is one less than for a normal number, because the leading digit of the significand carries
into it. -/
def ofScaled (negative : Bool) (m : Nat) (e : Int) : Binary32 :=
  let sign : UInt32 := if negative then 0x80000000 else 0
  if m = 0 then ⟨sign⟩ else
    let quantum := max (m.log2 + e - 23) (-149)
    let significand :=
      if quantum ≤ e then m <<< (e - quantum).toNat else roundShift m (quantum - e).toNat
    let magnitude := (quantum + 149).toNat * 0x800000 + significand
    ⟨sign ||| UInt32.ofNat (min magnitude 0x7F800000)⟩

def ofInt (i : Int) : Binary32 := ofScaled (i < 0) i.natAbs 0

/-- Narrows a binary64 bit pattern. A NaN stays a NaN and keeps its sign and leading payload. -/
def ofBinary64 (bits : UInt64) : Binary32 :=
  let negative := bits >>> 63 == 1
  let exponent := ((bits >>> 52) &&& 0x7FF).toNat
  let fraction := (bits &&& 0xFFFFFFFFFFFFF).toNat
  let sign : UInt32 := if negative then 0x80000000 else 0
  if exponent = 0x7FF then
    if fraction = 0 then ⟨sign ||| 0x7F800000⟩
    else
      let payload := UInt32.ofNat (fraction >>> 29)
      ⟨sign ||| 0x7FC00000 ||| payload⟩
  else if exponent = 0 then ofScaled negative fraction (-1074)
  else ofScaled negative (fraction + 0x10000000000000) (exponent - 1075)

/-- Drops the fraction and clamps to the range; NaN gives zero. -/
def toInt32 (x : Binary32) : Int32 :=
  let exponent : Int := ((x.bits >>> 23) &&& 0xFF).toNat
  let fraction := (x.bits &&& 0x7FFFFF).toNat
  let shift := exponent - 150
  let significand := if exponent = 0 then fraction else fraction + 0x800000
  let magnitude : Nat :=
    if 0 ≤ shift then significand <<< shift.toNat else significand >>> (-shift).toNat
  if x.isNaN then 0
  else if x.bits >>> 31 == 1 then Int32.ofInt (max (-(magnitude : Int)) (-0x80000000))
  else Int32.ofInt (min magnitude 0x7FFFFFFF)

end Binary32

end ContentLayers
