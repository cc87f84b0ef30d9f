import Passthrough.Text.Decimal
/-!
# JSON numerals

Numbers as JSON spells them. A numeral keeps its spelling apart from redundant signs and zeros of
the exponent, so that a reader can tell an integer from a number that merely has an integral value.
-/

namespace Passthrough.Json

structure Numeral where
  negative : Bool := false
  /-- The digits before the point. -/
  whole : Nat
  /-- The digits after the point; without any there is no point. -/
  fraction : List Char := []
  exponent : Option Int := none
  deriving DecidableEq, Repr

namespace Numeral

def ofInt (i : Int) : Numeral := { negative := i < 0, whole := i.natAbs }

/-- The integer that a numeral spells. A point or an exponent spells no integer, and neither does a
zero with a sign. -/
def integer? (n : Numeral) : Option Int :=
  if n.fraction ≠ [] ∨ n.exponent.isSome then none
  else if n.negative then if n.whole = 0 then none else some (-n.whole)
  else some n.whole

def exponentOf? (cs : List Char) : Option Int :=
  match cs with
  | '-' :: r => if r ≠ [] && r.all Char.isDigit then some (-Text.ofDigits r) else none
  | '+' :: r => if r ≠ [] && r.all Char.isDigit then some (Text.ofDigits r) else none
  | r => if r ≠ [] && r.all Char.isDigit then some (Text.ofDigits r) else none

/-- The part of a numeral that follows its mantissa. -/
def exponentPart? (cs : List Char) : Option (Option Int) :=
  match cs with
  | [] => some none
  | c :: r => if c = 'e' ∨ c = 'E' then (exponentOf? r).map some else none

/-- The digits behind the point, and what follows them. -/
def fractionPart? (cs : List Char) : Option (List Char × List Char) :=
  match cs with
  | '.' :: r =>
    let ds := r.takeWhile Char.isDigit
    if ds = [] then none else some (ds, r.dropWhile Char.isDigit)
  | r => some ([], r)

/-- The digits before the point: a zero alone, or a run that starts with no zero. -/
def wholePart? (cs : List Char) : Option (Nat × List Char) :=
  match cs.takeWhile Char.isDigit with
  | [] => none
  | ['0'] => some (0, cs.dropWhile Char.isDigit)
  | '0' :: _ => none
  | ds => some (Text.ofDigits ds, cs.dropWhile Char.isDigit)

def unsignedOf? (negative : Bool) (cs : List Char) : Option Numeral := do
  let (whole, cs) ← wholePart? cs
  let (fraction, cs) ← fractionPart? cs
  let exponent ← exponentPart? cs
  return { negative, whole, fraction, exponent }

def ofChars? (cs : List Char) : Option Numeral :=
  match cs with
  | '-' :: r => unsignedOf? true r
  | r => unsignedOf? false r

def exponentChars : Option Int → List Char
  | none => []
  | some e => 'e' :: (if e < 0 then ['-'] else []) ++ Text.digits e.natAbs

def chars (n : Numeral) : List Char :=
  (if n.negative then ['-'] else []) ++ Text.digits n.whole ++
    (if n.fraction = [] then [] else '.' :: n.fraction) ++ exponentChars n.exponent

end Numeral

end Passthrough.Json
