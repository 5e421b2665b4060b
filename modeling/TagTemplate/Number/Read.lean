import TagTemplate.Number.Binary64
import TagTemplate.Number.Digits

/-!
# Reading numbers

`read?` reads a decimal numeral: an optional sign, then `inf`, `infinity` or `nan` in any case,
or digits with an optional point (a digit on at least one side) and an optional exponent.
The result is the nearest binary64; a numeral too large reads as infinity.
`readIndex?` reads an unsigned 64-bit integer.
-/

namespace TagTemplate.Number

/-- The value of a string of decimal digits. -/
def digitsValue (cs : List Char) : Nat :=
  cs.foldl (fun n c => 10 * n + (c.toNat - '0'.toNat)) 0

/-- Text in lower case as far as ASCII goes. -/
def asciiLower (cs : List Char) : List Char := cs.map Char.toLower

/-- The nearest number to `mantissa * 10 ^ exponent`. Exponents far out of range are settled
without computing the power. -/
def ofDecimal (mantissa : Nat) (exponent : Int) : Float :=
  let top : Int := (digits mantissa).length + exponent
  if mantissa = 0 ∨ top < -330 then 0.0
  else if 310 < top then infinity
  else if 0 ≤ exponent then Float.ofScientific mantissa false exponent.toNat
  else Float.ofScientific mantissa true (-exponent).toNat

/-- The exponent part of a numeral: nothing, or `e` with an optional sign and digits. -/
def readExponent? : List Char → Option Int
  | [] => some 0
  | c :: cs =>
    if c = 'e' ∨ c = 'E' then
      let (negative, ds) := match cs with
        | '-' :: ds => (true, ds)
        | '+' :: ds => (false, ds)
        | ds => (false, ds)
      if ds ≠ [] ∧ ds.all Char.isDigit then
        some (if negative then -(digitsValue ds : Int) else digitsValue ds)
      else none
    else none

/-- A numeral without its sign. -/
def readMagnitude? (cs : List Char) : Option Float :=
  let lower := asciiLower cs
  if lower = ['i', 'n', 'f'] ∨ lower = ['i', 'n', 'f', 'i', 'n', 'i', 't', 'y'] then some infinity
  else if lower = ['n', 'a', 'n'] then some notANumber
  else
    let (whole, rest) := cs.span Char.isDigit
    let (fraction, rest) := match rest with
      | '.' :: more => more.span Char.isDigit
      | _ => ([], rest)
    if whole = [] ∧ fraction = [] then none
    else (readExponent? rest).map fun exponent =>
      ofDecimal (digitsValue (whole ++ fraction)) (exponent - fraction.length)

/-- The number a numeral stands for. -/
def read? (text : List Char) : Option Float :=
  match text with
  | '-' :: cs => (readMagnitude? cs).map fun x => -x
  | '+' :: cs => readMagnitude? cs
  | cs => readMagnitude? cs

/-- An unsigned integer below `2 ^ 64`: digits, a plus sign allowed in front. -/
def readIndex? (text : List Char) : Option Nat :=
  let ds := match text with
    | '+' :: ds => ds
    | ds => ds
  if ds ≠ [] ∧ ds.all Char.isDigit ∧ digitsValue ds < Nat.pow 2 64 then some (digitsValue ds)
  else none

end TagTemplate.Number
