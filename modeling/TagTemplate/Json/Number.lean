import TagTemplate.Json.Basic
import TagTemplate.Number.Binary64
import TagTemplate.Number.Read

/-!
# The numbers of JSON

A numeral is read as a 64-bit integer when it is one. Otherwise its digits go into a 64-bit
significand as far as they fit, and the significand is scaled by a power of ten with one rounding;
powers beyond `10 ^ 308` take several. A number too large for binary64 is none.
-/

namespace TagTemplate.Numeral

open TagTemplate.Number

/-- The digits read so far: their value, the power of ten to scale it by, and whether a digit of
this part did not fit any more. -/
structure Significand where
  value : Nat
  exponent : Int
  full : Bool
  deriving Repr, DecidableEq

/-- The value with one more digit. -/
def Significand.pushed (s : Significand) (c : Char) : Nat :=
  s.value * 10 + (c.toNat - '0'.toNat)

/-- Takes a digit before the point; one that does not fit only scales. -/
def Significand.addWhole (s : Significand) (c : Char) : Significand :=
  if !s.full && s.pushed c < Nat.pow 2 64 then { s with value := s.pushed c }
  else { s with exponent := s.exponent + 1, full := true }

/-- Takes a digit behind the point; one that does not fit is dropped with all after it. -/
def Significand.addFraction (s : Significand) (c : Char) : Significand :=
  if !s.full && s.pushed c < Nat.pow 2 64 then
    { s with value := s.pushed c, exponent := s.exponent - 1 }
  else { s with full := true }

/-- The digits before the point. -/
def wholePart (n : Numeral) : Significand := n.whole.foldl Significand.addWhole ⟨0, 0, false⟩

/-- All digits. -/
def significand (n : Numeral) : Significand :=
  n.fraction.foldl Significand.addFraction { n.wholePart with full := false }

/-- The largest exponent that is counted. -/
def largestExponent : Nat := Nat.pow 2 31 - 1

/-- Ten to a power up to 308. -/
def powerOfTen (n : Nat) : Float := Float.ofScientific 1 false n

/-- A number scaled by a power of ten. -/
def scale (x : Float) (exponent : Int) : Option Float :=
  if exponent.natAbs ≤ 308 then
    if 0 ≤ exponent then
      let y := x * powerOfTen exponent.natAbs
      if y.isInf then none else some y
    else some (x / powerOfTen exponent.natAbs)
  else if x == 0.0 then some x
  else if 0 ≤ exponent then none
  else scale (x / powerOfTen 308) (exponent + 308)
termination_by exponent.natAbs

/-- The numeral is an integer without a point and an exponent. -/
def isInteger (n : Numeral) : Bool := n.fraction.isEmpty && n.exponent.isNone

/-- The size of a number that is not a 64-bit integer. -/
def scaled (s : Significand) (exponent : Option Exponent) : Option Float :=
  let x := Float.ofScientific s.value false 0
  match exponent with
  | none => scale x s.exponent
  | some e =>
    let size := digitsValue e.digits
    if size ≤ largestExponent then
      scale x (if e.negative then s.exponent - size else s.exponent + size)
    else if s.value ≠ 0 ∧ !e.negative then none
    else some 0.0

/-- The number without its sign. -/
def magnitude (n : Numeral) : Option Float :=
  if n.isInteger && !n.wholePart.full then some (Float.ofScientific n.wholePart.value false 0)
  else scaled n.significand n.exponent

/-- The number a numeral stands for. -/
def toFloat? (n : Numeral) : Option Float :=
  n.magnitude.map fun x => if n.negative then -x else x

/-- The unsigned integer below a bound that a numeral stands for. -/
def toIndex? (n : Numeral) (bound : Nat) : Option Nat :=
  if n.isInteger && !n.negative && digitsValue n.whole < bound then some (digitsValue n.whole)
  else none

end TagTemplate.Numeral
