import TagTemplate.Json.Read

/-!
# Strings, keys and blanks of TOML

Quoted text comes in four forms: with escapes or literal, on one line or on several. The readers
take the text that is left and answer with what they read and the text behind it.
-/

namespace TagTemplate.Toml

open TagTemplate.Json (Read)

/-! ### Blanks and comments -/

/-- Space or tab. -/
def isSpace (c : Char) : Bool := c = ' ' || c = '\t'

/-- Text without the spaces at its start. -/
def skipSpaces (cs : List Char) : List Char := cs.dropWhile isSpace

/-- The character may stand in a comment or in quoted text: no control character but the tab. -/
def isPlain (c : Char) : Bool := c = '\t' || (0x20 ≤ c.toNat && c.toNat ≠ 0x7F)

/-- The text behind a line end, if one begins the text. -/
def afterLineEnd? : List Char → Option (List Char)
  | '\n' :: cs => some cs
  | '\r' :: '\n' :: cs => some cs
  | _ => none

/-- Text without the comment at its start, if there is one. -/
def skipComment (cs : List Char) : List Char :=
  match cs with
  | '#' :: rest => rest.dropWhile isPlain
  | _ => cs

/-- The text behind the end of a line: spaces, a comment, and a line end or the end of the text. -/
def finishLine? (cs : List Char) : Option (List Char) :=
  match skipComment (skipSpaces cs) with
  | [] => some []
  | rest => afterLineEnd? rest

/-- Text without spaces, comments and line ends at its start. Each line takes at least one
character. -/
def skipLines : Nat → List Char → List Char
  | 0, cs => cs
  | fuel + 1, cs =>
    let rest := skipComment (skipSpaces cs)
    match afterLineEnd? rest with
    | some rest => skipLines fuel rest
    | none => rest

/-- Text without spaces, comments and line ends at its start. -/
def skipGap (cs : List Char) : List Char := skipLines (cs.length + 1) cs

/-! ### Quoted text -/

/-- The character of hexadecimal digits. -/
def hexCharacter? (digits : List Char) : Option Char :=
  (digits.foldlM (fun code c => (Markup.digitValue? 16 c).map fun d => code * 16 + d) 0).bind
    Markup.codePoint?

/-- Reads an escape behind its backslash. -/
def readEscape (cs : List Char) : Read Char :=
  let coded (count : Nat) (cs : List Char) : Read Char :=
    let digits := cs.take count
    if digits.length = count then (hexCharacter? digits).map fun c => (c, cs.drop count) else none
  match cs with
  | 'b' :: cs => some ('\x08', cs)
  | 't' :: cs => some ('\t', cs)
  | 'n' :: cs => some ('\n', cs)
  | 'f' :: cs => some ('\x0c', cs)
  | 'r' :: cs => some ('\r', cs)
  | 'e' :: cs => some ('\x1b', cs)
  | '"' :: cs => some ('"', cs)
  | '\\' :: cs => some ('\\', cs)
  | 'x' :: cs => coded 2 cs
  | 'u' :: cs => coded 4 cs
  | 'U' :: cs => coded 8 cs
  | _ => none

/-- Reads text with escapes up to its closing quote; `fuel` is the text's length. -/
def readBasic : Nat → List Char → Read (List Char)
  | 0, _ => none
  | _ + 1, [] => none
  | fuel + 1, c :: cs =>
    if c = '"' then some ([], cs)
    else if c = '\\' then
      (readEscape cs).bind fun (d, cs) =>
        (readBasic fuel cs).map fun (text, rest) => (d :: text, rest)
    else if isPlain c then (readBasic fuel cs).map fun (text, rest) => (c :: text, rest)
    else none

/-- Reads literal text up to its closing quote. -/
def readLiteral (cs : List Char) : Read (List Char) :=
  let (text, rest) := cs.span fun c => c ≠ '\'' && isPlain c
  match rest with
  | '\'' :: rest => some (text, rest)
  | _ => none

/-- The text behind three quotes, if they begin the text. -/
def afterTriple? (quote : Char) : List Char → Option (List Char)
  | a :: b :: c :: cs => if a = quote ∧ b = quote ∧ c = quote then some cs else none
  | _ => none

/-- The closing quotes of text on several lines: up to two quotes before them are text. -/
def closing? (quote : Char) (cs : List Char) : Read (List Char) :=
  let count := (cs.takeWhile (· = quote)).length
  if 3 ≤ count then
    let extra := min (count - 3) 2
    some (List.replicate extra quote, cs.drop (extra + 3))
  else none

/-- The text behind a line end that is escaped: all blanks and line ends that follow are skipped.
Each line takes at least one character, so `fuel` is the text's length. -/
def skipFolded : Nat → List Char → List Char
  | 0, cs => cs
  | fuel + 1, cs =>
    match afterLineEnd? (skipSpaces cs) with
    | some rest => skipFolded fuel rest
    | none => skipSpaces cs

/-- The text behind an escaped line end and the blank lines after it, if one begins the text. -/
def afterEscapedLineEnd? (cs : List Char) : Option (List Char) :=
  (afterLineEnd? (skipSpaces cs)).map fun rest => skipFolded (rest.length + 1) rest

/-- Reads text on several lines behind its opening quotes; `fuel` is the text's length. -/
def readLong (quote : Char) (escapes : Bool) : Nat → List Char → Read (List Char)
  | 0, _ => none
  | _ + 1, [] => none
  | fuel + 1, c :: cs =>
    match (if c = quote then closing? quote (c :: cs) else none) with
    | some answer => some answer
    | none =>
      if escapes ∧ c = '\\' then
        match afterEscapedLineEnd? cs with
        | some rest => readLong quote escapes fuel rest
        | none =>
          (readEscape cs).bind fun (d, cs) =>
            (readLong quote escapes fuel cs).map fun (text, rest) => (d :: text, rest)
      else match afterLineEnd? (c :: cs) with
        | some after =>
          (readLong quote escapes fuel after).map fun (text, rest) =>
            ((c :: cs).take ((c :: cs).length - after.length) ++ text, rest)
        | none =>
          if isPlain c then
            (readLong quote escapes fuel cs).map fun (text, rest) => (c :: text, rest)
          else none

/-- Reads quoted text on one line. -/
def readQuoted (cs : List Char) : Read (List Char) :=
  match cs with
  | '"' :: cs => readBasic (cs.length + 1) cs
  | '\'' :: cs => readLiteral cs
  | _ => none

/-- Reads quoted text. A line end right behind three opening quotes does not count. -/
def readText (cs : List Char) : Read (List Char) :=
  let long (quote : Char) (escapes : Bool) (inner : List Char) :=
    let inner := (afterLineEnd? inner).getD inner
    readLong quote escapes (inner.length + 1) inner
  match afterTriple? '"' cs with
  | some inner => long '"' true inner
  | none =>
    match afterTriple? '\'' cs with
    | some inner => long '\'' false inner
    | none => readQuoted cs

/-! ### Keys -/

/-- The character may stand in a key without quotes. -/
def isKeyChar (c : Char) : Bool := c.isAlphanum || c = '_' || c = '-'

/-- Reads one part of a key. -/
def readKeyPart (cs : List Char) : Read String :=
  match readQuoted cs with
  | some (text, rest) => some (String.ofList text, rest)
  | none =>
    match cs.span isKeyChar with
    | ([], _) => none
    | (text, rest) => some (String.ofList text, rest)

/-- Reads parts of a key with dots between them. -/
def readKeyParts : Nat → List Char → Read (List String)
  | 0, _ => none
  | fuel + 1, cs =>
    (readKeyPart (skipSpaces cs)).bind fun (part, rest) =>
      match skipSpaces rest with
      | '.' :: rest => (readKeyParts fuel rest).map fun (parts, rest) => (part :: parts, rest)
      | rest => some ([part], rest)

/-- How many parts a key may have. -/
def mostKeyParts : Nat := 80

/-- Reads a key. -/
def readKey (cs : List Char) : Read (List String) :=
  (readKeyParts (cs.length + 1) cs).filter fun (parts, _) => parts.length ≤ mostKeyParts

/-- The text behind an expected character. -/
def expect? (c : Char) (cs : List Char) : Option (List Char) :=
  match cs with
  | d :: rest => if d = c then some rest else none
  | [] => none

end TagTemplate.Toml
