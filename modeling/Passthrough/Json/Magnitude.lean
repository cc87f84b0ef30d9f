import Passthrough.Json.Numeral
/-!
# Numerals as double-precision numbers

A numeral that is held as a double-precision number is computed from a significand and a power of
ten. The significand is the longest run of digits that fits into 64 bits; the digits before the point
that do not fit count as powers of ten, those behind it are left out. The significand and the power
are rounded, and so is their product, which is where a numeral can turn out too large.
-/

namespace Passthrough.Json

/-- The nearest number with at most 53 binary digits in front of its zeros; of two equally near
ones, the one whose last digit is even. -/
def roundToDouble (n : Nat) : Nat :=
  let excess := n.log2 + 1 - 53
  let kept := n >>> excess
  let rest := 2 * (n % (1 <<< excess))
  let up := 1 <<< excess < rest ∨ (rest = 1 <<< excess ∧ kept % 2 = 1)
  (if up then kept + 1 else kept) <<< excess

/-- The least number that is rounded beyond every double-precision number. -/
def doubleLimit : Nat := 1 <<< 1024 - 1 <<< 970

/-- Appends digits to a significand as long as it fits into 64 bits; answers as well the digits that
are left. -/
def appendDigits (significand : Nat) : List Char → Nat × List Char
  | [] => (significand, [])
  | c :: cs =>
    let longer := 10 * significand + Text.digitValue c
    if longer < 1 <<< 64 then appendDigits longer cs else (significand, c :: cs)

namespace Numeral

/-- The significand of a numeral and the power of ten that goes with it. -/
def scaled (n : Numeral) : Nat × Int :=
  let (whole, surplus) := appendDigits 0 (Text.digits n.whole)
  let (significand, unread) := appendDigits whole n.fraction
  let places := n.fraction.length - unread.length
  (significand, n.exponent.getD 0 + surplus.length - places)

/-- Whether a numeral is too large for a double-precision number. -/
def overflowsDouble (n : Numeral) : Bool :=
  let (significand, exponent) := n.scaled
  if significand = 0 ∨ exponent < 0 then false
  else if 308 < exponent then true
  else doubleLimit ≤ roundToDouble significand * roundToDouble (Nat.pow 10 exponent.toNat)

end Numeral

end Passthrough.Json
