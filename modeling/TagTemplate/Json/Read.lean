import TagTemplate.Json.Basic
import TagTemplate.Markup.Reference
import TagTemplate.Text.Blank

/-!
# Reading JSON

Strict JSON: no comments, no leading zeros, no control characters in strings, nothing behind the
document. A reader takes the text that is left and answers with what it read and the text behind it.
How deeply arrays and objects may be nested is given by the caller.

- `read`, `readWithin`: the document that a text is;
- `readBytes`: the document that bytes are, even if some of its strings are no text.
-/

namespace TagTemplate.Json

open TagTemplate.Text

/-- What a reader answers with: what was read and the text behind it. -/
abbrev Read (α : Type) := Option (α × List Char)

/-- Text without the blanks at its start. -/
def skipBlanks (cs : List Char) : List Char := cs.dropWhile isMarkupBlank

/-! ### Strings -/

/-- A piece of a string: a character as it stands, an escaped one, or an escaped half of a surrogate
pair. -/
inductive Piece where
  | char (c : Char)
  | escaped (c : Char)
  | half (code : Nat)
  deriving Repr, DecidableEq

/-- The character of a one-letter escape. -/
def shortEscape? (c : Char) : Option Char :=
  if c = '"' ∨ c = '\\' ∨ c = '/' then some c
  else if c = 'b' then some '\x08'
  else if c = 'f' then some '\x0c'
  else if c = 'n' then some '\n'
  else if c = 'r' then some '\r'
  else if c = 't' then some '\t'
  else none

/-- The value of four hexadecimal digits. -/
def hexCode? (a b c d : Char) : Option Nat := do
  let a ← Markup.digitValue? 16 a
  let b ← Markup.digitValue? 16 b
  let c ← Markup.digitValue? 16 c
  let d ← Markup.digitValue? 16 d
  some (((a * 16 + b) * 16 + c) * 16 + d)

/-- The piece that a code below `0x10000` stands for. -/
def pieceOfCode (code : Nat) : Piece :=
  match Markup.codePoint? code with
  | some c => .escaped c
  | none => .half code

/-- Reads a string behind its opening quote. -/
def readPieces : List Char → Read (List Piece)
  | [] => none
  | '"' :: cs => some ([], cs)
  | '\\' :: 'u' :: a :: b :: c :: d :: cs =>
    match hexCode? a b c d, readPieces cs with
    | some code, some (pieces, rest) => some (pieceOfCode code :: pieces, rest)
    | _, _ => none
  | '\\' :: c :: cs =>
    match shortEscape? c, readPieces cs with
    | some c, some (pieces, rest) => some (.escaped c :: pieces, rest)
    | _, _ => none
  | c :: cs =>
    if c.toNat < 0x20 ∨ c = '\\' then none
    else match readPieces cs with
      | some (pieces, rest) => some (.char c :: pieces, rest)
      | none => none

/-- The character of two halves of a surrogate pair. -/
def pairCode? (high low : Nat) : Option Char :=
  if 0xD800 ≤ high ∧ high < 0xDC00 ∧ 0xDC00 ≤ low ∧ low < 0xE000 then
    Markup.codePoint? (0x10000 + (high - 0xD800) * 0x400 + (low - 0xDC00))
  else none

/-- What the pieces of a string make together; halves must come in pairs. -/
def joinPieces {α : Type} (plain escaped : Char → List α) : List Piece → Option (List α)
  | [] => some []
  | .char c :: pieces => (joinPieces plain escaped pieces).map (plain c ++ ·)
  | .escaped c :: pieces => (joinPieces plain escaped pieces).map (escaped c ++ ·)
  | .half high :: .half low :: pieces =>
    match pairCode? high low with
    | some c => (joinPieces plain escaped pieces).map (escaped c ++ ·)
    | none => none
  | .half _ :: _ => none

/-- The text of a string. -/
def textOfPieces (pieces : List Piece) : Option String :=
  (joinPieces (fun c => [c]) (fun c => [c]) pieces).map String.ofList

/-- The text of a string in which characters stand for a byte each, unless they are escaped. -/
def textOfBytePieces (pieces : List Piece) : Option String :=
  (joinPieces (fun c => [UInt8.ofNat c.toNat]) String.utf8EncodeChar pieces).bind fun bytes =>
    String.fromUTF8? ⟨bytes.toArray⟩

/-- Reads a string behind its opening quote, given what its pieces say. -/
def readString (toText : List Piece → Option String) (cs : List Char) : Read (Option String) :=
  (readPieces cs).map fun (pieces, rest) => (toText pieces, rest)

/-! ### Numbers -/

/-- Reads digits; there must be one. -/
def readDigits (cs : List Char) : Read (List Char) :=
  match cs.span Char.isDigit with
  | ([], _) => none
  | answer => some answer

/-- Reads the fraction of a numeral, if there is one. -/
def readFraction (cs : List Char) : Read (List Char) :=
  match cs with
  | '.' :: cs => readDigits cs
  | _ => some ([], cs)

/-- Reads the exponent of a numeral, if there is one. -/
def readExponent (cs : List Char) : Read (Option Exponent) :=
  let signed (cs : List Char) : Read Exponent :=
    match cs with
    | '-' :: cs => (readDigits cs).map fun (digits, rest) => (⟨true, digits⟩, rest)
    | '+' :: cs => (readDigits cs).map fun (digits, rest) => (⟨false, digits⟩, rest)
    | cs => (readDigits cs).map fun (digits, rest) => (⟨false, digits⟩, rest)
  match cs with
  | c :: rest =>
    if c = 'e' ∨ c = 'E' then (signed rest).map fun (exponent, rest) => (some exponent, rest)
    else some (none, cs)
  | [] => some (none, cs)

/-- Reads a numeral without its sign. A zero at the start stands alone. -/
def readMagnitude (negative : Bool) (cs : List Char) : Read Numeral :=
  (readDigits cs).bind fun (whole, cs) =>
    if whole.head? = some '0' ∧ whole.length ≠ 1 then none
    else
      (readFraction cs).bind fun (fraction, cs) =>
        (readExponent cs).map fun (exponent, cs) => (⟨negative, whole, fraction, exponent⟩, cs)

/-- Reads a numeral. -/
def readNumeral (cs : List Char) : Read Numeral :=
  match cs with
  | '-' :: cs => readMagnitude true cs
  | _ => readMagnitude false cs

/-! ### Documents -/

/-- Reads items with commas between them up to a closing mark; each takes at least one character. -/
def readItems {α : Type} (item : List Char → Read α) (close : Char) :
    Nat → List Char → Read (List α)
  | 0, _ => none
  | fuel + 1, cs =>
    match item (skipBlanks cs) with
    | none => none
    | some (x, rest) =>
      match skipBlanks rest with
      | [] => none
      | c :: rest =>
        if c = close then some ([x], rest)
        else if c = ',' then
          match readItems item close fuel rest with
          | some (xs, rest) => some (x :: xs, rest)
          | none => none
        else none

/-- Reads items up to a closing mark; there may be none. -/
def readList {α : Type} (item : List Char → Read α) (close : Char) (cs : List Char) :
    Read (List α) :=
  match skipBlanks cs with
  | [] => none
  | c :: rest => if c = close then some ([], rest) else readItems item close (cs.length + 1) cs

/-- Reads a member of an object. -/
def readMember (toText : List Piece → Option String) (value : List Char → Read Json)
    (cs : List Char) : Read (Option String × Json) :=
  match cs with
  | '"' :: cs =>
    match readString toText cs with
    | none => none
    | some (name, rest) =>
      match skipBlanks rest with
      | ':' :: rest => (value (skipBlanks rest)).map fun (value, rest) => ((name, value), rest)
      | _ => none
  | _ => none

/-- The documents that are a word. -/
def readWord (cs : List Char) : Read Json :=
  match ['n', 'u', 'l', 'l'].isPrefixOf? cs with
  | some rest => some (.null, rest)
  | none =>
    match ['t', 'r', 'u', 'e'].isPrefixOf? cs with
    | some rest => some (.bool true, rest)
    | none => (['f', 'a', 'l', 's', 'e'].isPrefixOf? cs).map fun rest => (.bool false, rest)

/-- Reads a document without arrays and objects. -/
def readScalar (toText : List Piece → Option String) (cs : List Char) : Read Json :=
  match cs with
  | '"' :: cs => (readString toText cs).map fun (text, rest) => (.string text, rest)
  | _ =>
    match readWord cs with
    | some answer => some answer
    | none => (readNumeral cs).map fun (numeral, rest) => (.number numeral, rest)

/-- Reads a document in which arrays and objects are nested at most `depth` deep. -/
def readValue (toText : List Piece → Option String) : Nat → List Char → Read Json
  | 0, cs => readScalar toText cs
  | depth + 1, cs =>
    match cs with
    | '[' :: cs =>
      (readList (readValue toText depth) ']' cs).map fun (items, rest) => (.array items, rest)
    | '\x7b' :: cs =>
      (readList (readMember toText (readValue toText depth)) '\x7d' cs).map fun (members, rest) =>
        (.object members, rest)
    | _ => readScalar toText cs

/-- Reads one document with nothing behind it, nested at most `depth` deep. -/
def readAll (toText : List Piece → Option String) (depth : Nat) (cs : List Char) : Option Json :=
  match readValue toText depth (skipBlanks cs) with
  | some (json, rest) => if (skipBlanks rest).isEmpty then some json else none
  | none => none

/-- Reads a text that is one document, nested at most `depth` deep. -/
def readWithin (depth : Nat) (cs : List Char) : Option Json := readAll textOfPieces depth cs

/-- Reads a text that is one document, however deeply nested. -/
def read (cs : List Char) : Option Json := readWithin cs.length cs

/-- Reads bytes that are one document, however deeply nested. Bytes that are no text may only stand
in strings: all marks of a document are single bytes, so the bytes are read one by one and each
string is put together afterwards. -/
def readBytes (bytes : ByteArray) : Option Json :=
  match String.fromUTF8? bytes with
  | some text => read text.toList
  | none => readAll textOfBytePieces bytes.size (bytes.data.toList.map fun b => Char.ofNat b.toNat)

end TagTemplate.Json
