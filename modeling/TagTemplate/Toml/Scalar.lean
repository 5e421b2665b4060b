import TagTemplate.Toml.Basic

/-!
# Numbers and words of TOML

A token that is neither quoted nor a collection: a truth value, an integer, a number with a point or
an exponent, or a date. Underscores may stand between digits.
-/

namespace TagTemplate.Toml

open TagTemplate.Number

/-- The character belongs to a token. -/
def isTokenChar (c : Char) : Bool :=
  c.isAlphanum || c = '_' || c = '+' || c = '-' || c = '.' || c = ':'

/-- Digits without the underscores between them. There must be a digit at both ends, and one on
both sides of every underscore. -/
def plainDigits? (isDigit : Char → Bool) : List Char → Option (List Char)
  | [] => none
  | [c] => if isDigit c then some [c] else none
  | c :: '_' :: cs => if isDigit c then (plainDigits? isDigit cs).map (c :: ·) else none
  | c :: cs => if isDigit c then (plainDigits? isDigit cs).map (c :: ·) else none

/-- The digits of a decimal integer: a zero at the start stands alone. -/
def decimalDigits? (cs : List Char) : Option (List Char) :=
  (plainDigits? Char.isDigit cs).filter fun digits => digits.length = 1 || digits.head? != some '0'

/-- The value of a digit up to `f`. -/
def digitValue (c : Char) : Nat :=
  if c.isDigit then c.toNat - '0'.toNat
  else if 'a' ≤ c ∧ c ≤ 'f' then c.toNat - 'a'.toNat + 10
  else if 'A' ≤ c ∧ c ≤ 'F' then c.toNat - 'A'.toNat + 10
  else 16

/-- An integer written in another base than ten. -/
def basedInteger? (base : Nat) (cs : List Char) : Option Int :=
  (plainDigits? (fun c => digitValue c < base) cs).map fun digits =>
    ((digits.foldl (fun n c => base * n + digitValue c) 0 : Nat) : Int)

/-- A token without its sign; the first answer tells whether the sign is a minus. -/
def unsigned : List Char → Bool × List Char
  | '-' :: cs => (true, cs)
  | '+' :: cs => (false, cs)
  | cs => (false, cs)

/-- The integer that a token is. -/
def integer? (token : List Char) : Option Int :=
  match token with
  | '0' :: 'x' :: cs => basedInteger? 16 cs
  | '0' :: 'o' :: cs => basedInteger? 8 cs
  | '0' :: 'b' :: cs => basedInteger? 2 cs
  | _ =>
    let (negative, cs) := unsigned token
    (decimalDigits? cs).map fun digits =>
      if negative then -(digitsValue digits : Int) else digitsValue digits

/-- The exponent at the end of a token, without underscores; nothing is no exponent. -/
def plainExponent? (cs : List Char) : Option (List Char) :=
  match cs with
  | [] => some []
  | c :: rest =>
    if c = 'e' ∨ c = 'E' then
      let (negative, digits) := unsigned rest
      (plainDigits? Char.isDigit digits).map fun digits =>
        'e' :: (if negative then ['-'] else []) ++ digits
    else none

/-- The fraction and exponent at the end of a token, without underscores. -/
def plainFraction? (cs : List Char) : Option (List Char) :=
  match cs with
  | '.' :: rest =>
    let (fraction, rest) := rest.span fun c => c ≠ 'e' && c ≠ 'E'
    (plainDigits? Char.isDigit fraction).bind fun fraction =>
      (plainExponent? rest).map fun exponent => '.' :: fraction ++ exponent
  | _ => plainExponent? cs

/-- The number that a token without a sign is; the inner answer is none if it is too large for
binary64. -/
def floatSize? (cs : List Char) : Option (Option Float) :=
  if cs = ['i', 'n', 'f'] then some (some infinity)
  else if cs = ['n', 'a', 'n'] then some (some notANumber)
  else
    let (whole, rest) := cs.span fun c => c.isDigit || c = '_'
    (decimalDigits? whole).bind fun whole =>
      (plainFraction? rest).bind fun rest =>
        (Number.read? (whole ++ rest)).map fun x => if x.isInf then none else some x

/-- The number that a token is; the inner answer is none if it is too large for binary64. -/
def float? (token : List Char) : Option (Option Float) :=
  let (negative, cs) := unsigned token
  (floatSize? cs).map fun size => size.map fun x => if negative then -x else x

/-- The value that a token is. -/
def scalar? (token : List Char) : Option Toml :=
  if token = ['t', 'r', 'u', 'e'] then some (.bool true)
  else if token = ['f', 'a', 'l', 's', 'e'] then some (.bool false)
  else match integer? token with
    | some n => some (.integer n)
    | none =>
      match Datetime.read? token with
      | some d => some (.datetime d)
      | none => (float? token).map .float

/-- Reads a token. A date may be followed by a blank and a time. -/
def readToken (cs : List Char) : List Char × List Char :=
  let (token, rest) := cs.span isTokenChar
  match rest with
  | ' ' :: c :: more =>
    if c.isDigit ∧ (readDate token).any fun answer => answer.2.isEmpty then
      let (time, rest) := (c :: more).span isTokenChar
      (token ++ ' ' :: time, rest)
    else (token, rest)
  | _ => (token, rest)

end TagTemplate.Toml
