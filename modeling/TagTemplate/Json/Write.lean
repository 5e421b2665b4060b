import TagTemplate.Json.Basic

/-!
# Writing JSON

The compact form: no blanks, members in order. Strings escape the quote, the backslash and the
control characters below the space; nothing else.
-/

namespace TagTemplate

/-- A hexadecimal digit, small. -/
def Json.hexDigit (n : Nat) : Char := "0123456789abcdef".toList.getD n '0'

/-- A character in a string. -/
def Json.writeChar (c : Char) : List Char :=
  if c = '"' then ['\\', '"']
  else if c = '\\' then ['\\', '\\']
  else if c = '\x08' then ['\\', 'b']
  else if c = '\x0c' then ['\\', 'f']
  else if c = '\n' then ['\\', 'n']
  else if c = '\r' then ['\\', 'r']
  else if c = '\t' then ['\\', 't']
  else if c.toNat < 0x20 then
    ['\\', 'u', '0', '0', Json.hexDigit (c.toNat / 16), Json.hexDigit (c.toNat % 16)]
  else [c]

/-- A string in quotes. -/
def Json.writeString (text : Option String) : List Char :=
  '"' :: (text.getD "").toList.flatMap Json.writeChar ++ ['"']

/-- An exponent with its mark. -/
def Exponent.write (e : Exponent) : List Char :=
  'e' :: (if e.negative then ['-'] else []) ++ e.digits

/-- A numeral. -/
def Numeral.write (n : Numeral) : List Char :=
  (if n.negative then ['-'] else []) ++ n.whole
    ++ (if n.fraction.isEmpty then [] else '.' :: n.fraction)
    ++ (n.exponent.map Exponent.write).getD []

namespace Json

mutual

/-- A document. -/
def write : Json → List Char
  | null => ['n', 'u', 'l', 'l']
  | bool true => ['t', 'r', 'u', 'e']
  | bool false => ['f', 'a', 'l', 's', 'e']
  | number numeral => numeral.write
  | string text => writeString text
  | array items => '[' :: writeItems items ++ [']']
  | object members => '\x7b' :: writeMembers members ++ ['\x7d']

/-- Documents with commas between them. -/
def writeItems : List Json → List Char
  | [] => []
  | [item] => item.write
  | item :: items => item.write ++ ',' :: writeItems items

/-- Members with commas between them. -/
def writeMembers : List (Option String × Json) → List Char
  | [] => []
  | [(name, value)] => writeString name ++ ':' :: value.write
  | (name, value) :: members =>
    writeString name ++ ':' :: value.write ++ ',' :: writeMembers members

end

/-- The text of a document. -/
def compact (json : Json) : String := String.ofList json.write

end Json

end TagTemplate
