/-!
# Numbers taken apart

Every number is a binary64. This module reads its 64 bits:

- `shape` names the sign, the integer mantissa and the power of two of a finite number;
- `orderKey` lines all bit patterns up in the order of the numbers they stand for, and
  `nearlyEqual` compares two numbers with a tolerance of two places in that order.
-/

namespace TagTemplate.Number

/-- What the bits of a number say: a finite one is `mantissa * 2 ^ exponent` with a sign. -/
inductive Shape where
  | nan
  | infinite (negative : Bool)
  | finite (negative : Bool) (mantissa : Nat) (exponent : Int)
  deriving Repr, DecidableEq

/-- Splits a number into sign, mantissa and exponent. -/
def shape (x : Float) : Shape :=
  let bits := x.toBits.toNat
  let negative := bits / Nat.pow 2 63 == 1
  let field : Nat := bits / Nat.pow 2 52 % Nat.pow 2 11
  let fraction := bits % Nat.pow 2 52
  if field = 2047 then
    if fraction = 0 then .infinite negative else .nan
  else if field = 0 then .finite negative fraction (-1074)
  else .finite negative (Nat.pow 2 52 + fraction) ((field : Int) - 1075)

/-- The place of a bit pattern when all patterns are ordered by their number: negative patterns
come first, in reverse. -/
def orderKey (x : Float) : Nat :=
  let bits := x.toBits.toNat
  if bits < Nat.pow 2 63 then Nat.pow 2 63 + bits else Nat.pow 2 64 - 1 - bits

/-- Two numbers are nearly equal when they compare equal or lie at most two places apart. -/
def nearlyEqual (x y : Float) : Bool :=
  x == y || ((orderKey x : Int) - (orderKey y : Int)).natAbs ≤ 2

/-- The positive infinity, and what a decimal too large to represent reads as. -/
def infinity : Float := 1.0 / 0.0

/-- The number that is no number. -/
def notANumber : Float := 0.0 / 0.0

theorem nearlyEqual_iff {x y : Float} :
    nearlyEqual x y = true ↔
      (x == y) = true ∨ ((orderKey x : Int) - (orderKey y : Int)).natAbs ≤ 2 := by
  simp [nearlyEqual]

end TagTemplate.Number
