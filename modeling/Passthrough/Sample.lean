/-!
# Samples

Samples as 16-bit numbers, as single-precision numbers and as bytes.

A floating-point sample is given by its bits. The unit of its scale is full deflection, so that a
16-bit sample is worth one 32768th of it. Every 16-bit sample has an exact counterpart; in the other
direction the fraction is cut off and what lies beyond full deflection is clamped.
-/

namespace Passthrough.Sample

/-- The integer as a sample; beyond the range of samples, the nearest one. -/
def clamp (i : Int) : Int16 :=
  if i < -32768 then -32768 else if 32767 < i then 32767 else Int16.ofInt i

/-- The sample that a single-precision number stands for. What is not a number is silence. -/
def ofFloatBits (bits : UInt32) : Int16 :=
  let negative := bits &&& 0x80000000 ≠ 0
  let exponent := (bits >>> 23 &&& 0xff).toNat
  let fraction := (bits &&& 0x7fffff).toNat
  if exponent = 255 ∧ fraction ≠ 0 then 0
  else
    -- The magnitude in sample units is `mantissa * 2 ^ (scale - 135)`.
    let mantissa := if exponent = 0 then fraction else fraction + 1 <<< 23
    let scale := max exponent 1
    let magnitude := if 135 ≤ scale then mantissa <<< (scale - 135) else mantissa >>> (135 - scale)
    clamp (if negative then -(magnitude : Int) else magnitude)

/-- The bits of the single-precision number that a sample is worth. -/
def toFloatBits (s : Int16) : UInt32 :=
  let magnitude := s.toInt.natAbs
  if magnitude = 0 then 0
  else
    let sign : UInt32 := if s < 0 then 0x80000000 else 0
    let top := magnitude.log2
    let exponent := top + 112
    let fraction := magnitude <<< (23 - top) - 1 <<< 23
    sign ||| UInt32.ofNat (exponent <<< 23 + fraction)

/-- The bytes of a sample, the low one first. -/
def bytes (s : Int16) : List UInt8 := [s.toUInt16.toUInt8, (s.toUInt16 >>> 8).toUInt8]

end Passthrough.Sample
