import TagTemplate.Markup.Fault
import TagTemplate.Text.Search

/-!
# References

The five predefined entities and numeric character references. An attribute value is strict about
numeric references (`unescape`); running text reads them as plain numerals (`resolve?`), so it
also takes a plus sign, a capital `X` and the number zero.
-/

namespace TagTemplate.Markup

open TagTemplate.Text

/-- The character a predefined entity stands for. -/
def predefined? (name : List Char) : Option Char :=
  if name = ['l', 't'] then some '<'
  else if name = ['g', 't'] then some '>'
  else if name = ['a', 'm', 'p'] then some '&'
  else if name = ['a', 'p', 'o', 's'] then some '\''
  else if name = ['q', 'u', 'o', 't'] then some '"'
  else none

/-- The value of a digit in a base up to sixteen. -/
def digitValue? (base : Nat) (c : Char) : Option Nat :=
  let value :=
    if c.isDigit then some (c.toNat - '0'.toNat)
    else if 'a' ≤ c ∧ c ≤ 'f' then some (c.toNat - 'a'.toNat + 10)
    else if 'A' ≤ c ∧ c ≤ 'F' then some (c.toNat - 'A'.toNat + 10)
    else none
  value.filter (· < base)

/-- Reads digits on top of a value; the result must stay below `2 ^ 32` at every digit. -/
def readDigits (base : Nat) : Nat → List Char → Except ReferenceFault Nat
  | value, [] => .ok value
  | value, c :: cs =>
    match digitValue? base c with
    | none => .error .badDigit
    | some digit =>
      if value * base + digit < Nat.pow 2 32 then readDigits base (value * base + digit) cs
      else .error .tooLarge

/-- An unsigned 32-bit numeral without a sign. -/
def readUnsigned (base : Nat) (cs : List Char) : Except ReferenceFault Nat :=
  if cs = [] then .error .empty else readDigits base 0 cs

/-- The character with a code point, unless it is a surrogate or too large. -/
def codePoint? (code : Nat) : Option Char :=
  if h : code.isValidChar then some (Char.ofNatAux code h) else none

/-- The numeral of a reference in an attribute value: no sign, and hexadecimal after a small `x`. -/
def strictCode (number : List Char) : Except ReferenceFault Nat :=
  let (base, digits) := match number with
    | 'x' :: hex => (16, hex)
    | decimal => (10, decimal)
  match digits with
  | '+' :: _ => .error .signed
  | '-' :: _ => .error .signed
  | _ => readUnsigned base digits

/-- The character of a numeric reference in an attribute value. -/
def strictCharacter (number : List Char) : Except ReferenceFault Char :=
  (strictCode number).bind fun code =>
    if code = 0 then .error .zero
    else match codePoint? code with
      | some c => .ok c
      | none => .error (.notCodePoint code)

/-- Replaces the references in an attribute value. `position` is the byte offset of the text in the
value and `total` the value's byte length; each step consumes a character, so `fuel` is its
length. -/
def unescapeFrom (total : Nat) : Nat → Nat → List Char → Except AttributeFault (List Char)
  | 0, _, _ => .ok []
  | _ + 1, _, [] => .ok []
  | fuel + 1, position, c :: cs =>
    if c = '&' then
      let (name, rest) := cs.span fun d => d ≠ '&' && d ≠ ';'
      let stop := position + 1 + byteLength name
      match rest with
      | ';' :: rest =>
        let character := match name with
          | '#' :: number => (strictCharacter number).mapError AttributeFault.badReference
          | _ => match predefined? name with
            | some d => .ok d
            | none => .error (.unknownEntity (position + 1) stop (String.ofList name))
        character.bind fun d => (unescapeFrom total fuel (stop + 1) rest).map (d :: ·)
      | _ => .error (.unterminated position total)
    else (unescapeFrom total fuel (position + c.utf8Size) cs).map (c :: ·)

/-- The text an attribute value stands for. -/
def unescape (value : List Char) : Except AttributeFault (List Char) :=
  unescapeFrom (byteLength value) value.length 0 value

/-- The character a reference in running text stands for. -/
def resolve? (name : List Char) : Option Char :=
  match predefined? name with
  | some c => some c
  | none =>
    match name with
    | '#' :: number =>
      let (base, digits) := match number with
        | 'x' :: hex => (16, hex)
        | 'X' :: hex => (16, hex)
        | decimal => (10, decimal)
      let digits := match digits with
        | '+' :: digits => digits
        | digits => digits
      (readUnsigned base digits).toOption.bind codePoint?
    | _ => none

/-- One character of text, with the five predefined entities for the characters markup uses. -/
def escapeChar (c : Char) : List Char :=
  if c = '<' then ['&', 'l', 't', ';']
  else if c = '>' then ['&', 'g', 't', ';']
  else if c = '&' then ['&', 'a', 'm', 'p', ';']
  else if c = '\'' then ['&', 'a', 'p', 'o', 's', ';']
  else if c = '"' then ['&', 'q', 'u', 'o', 't', ';']
  else [c]

/-- Text with every character that markup uses replaced by its entity. -/
def escape (cs : List Char) : List Char := cs.flatMap escapeChar

/-- Strings with every character that markup uses replaced by its entity. -/
def escaped (s : String) : String := String.ofList (escape s.toList)

end TagTemplate.Markup
