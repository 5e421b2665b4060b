import TagTemplate.Number.Binary64
import TagTemplate.Number.Digits

/-!
# Numbers with a fixed count of decimals

A magnitude is first rounded to whole units of its last decimal place, a half going to the even
neighbour; its digits are then those of the count of units. `grouped` parts digits in threes.
-/

namespace TagTemplate.Number

/-- The magnitude `mantissa * 2 ^ exponent` in units of `10 ^ -places`, rounded to the nearest. -/
def scaled (places mantissa : Nat) (exponent : Int) : Nat :=
  roundHalfEven (mantissa * Nat.pow 2 exponent.toNat * Nat.pow 10 places)
    (Nat.pow 2 (-exponent).toNat)

/-- The digits before the point of a count of units of `10 ^ -places`. -/
def wholeDigits (places units : Nat) : List Char := digits (units / Nat.pow 10 places)

/-- The digits after the point of a count of units of `10 ^ -places`. -/
def fractionDigits (places units : Nat) : List Char :=
  if places = 0 then [] else paddedDigits places (units % Nat.pow 10 places)

/-- Digits with a separator before every group of three that something stands in front of. -/
def groupedAfter (separator : List Char) : (inside : Bool) → List Char → List Char
  | _, [] => []
  | inside, d :: ds =>
    (if inside ∧ (ds.length + 1) % 3 = 0 then separator else []) ++
      d :: groupedAfter separator true ds

/-- Digits in groups of three, counted from the right. -/
def grouped (separator ds : List Char) : List Char := groupedAfter separator false ds

/-- A number with `places` decimals and its digits before the point in groups. The sign stands only
before a number that shows a digit other than zero. -/
def formatted (places : Nat) (point separator : List Char) (x : Float) : List Char :=
  match shape x with
  | .nan => ['N', 'a', 'N']
  | .infinite _ => ['i', 'n', 'f']
  | .finite negative mantissa exponent =>
    let units := scaled places mantissa exponent
    let sign := if negative ∧ units ≠ 0 then ['-'] else []
    let fraction := fractionDigits places units
    sign ++ grouped separator (wholeDigits places units) ++
      (if fraction = [] then [] else point ++ fraction)

end TagTemplate.Number
