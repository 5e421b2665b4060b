import TagTemplate.Toml.Scalar
import TagTemplate.Toml.Table
import TagTemplate.Toml.Text

/-!
# Reading TOML

A document is a list of sections. Each has a header, except the first one, and keys with values on
lines of their own. Arrays and inline tables may go over several lines.
-/

namespace TagTemplate.Toml

open TagTemplate.Json (Read)

/-! ### Values -/

/-- How deeply arrays and inline tables may be nested. -/
def deepest : Nat := 80

/-- Reads items with commas between them up to a closing mark; a comma may stand behind the last
one. Each takes at least one character. -/
def readItems {α : Type} (item : List Char → Read α) (close : Char) :
    Nat → List Char → Read (List α)
  | 0, _ => none
  | fuel + 1, cs =>
    match expect? close (skipGap cs) with
    | some rest => some ([], rest)
    | none =>
      (item (skipGap cs)).bind fun (x, rest) =>
        match expect? ',' (skipGap rest) with
        | some rest => (readItems item close fuel rest).map fun (xs, rest) => (x :: xs, rest)
        | none => (expect? close (skipGap rest)).map fun rest => ([x], rest)

/-- Reads a key with its value. -/
def readPair (value : List Char → Read Toml) (cs : List Char) : Read (List String × Toml) :=
  (readKey cs).bind fun (key, rest) =>
    (expect? '=' rest).bind fun rest =>
      (value (skipSpaces rest)).map fun (v, rest) => ((key, v), rest)

/-- Reads a value that is no collection. -/
def readScalar (cs : List Char) : Read Toml :=
  match cs with
  | [] => none
  | c :: _ =>
    if c = '"' ∨ c = '\'' then
      (readText cs).map fun (text, rest) => (.string (String.ofList text), rest)
    else
      let (token, rest) := readToken cs
      (scalar? token).map fun v => (v, rest)

/-- Reads a value in which collections are nested at most `depth` deep. -/
def readValue : Nat → List Char → Read Toml
  | 0, cs => readScalar cs
  | depth + 1, cs =>
    match cs with
    | '[' :: cs =>
      (readItems (readValue depth) ']' (cs.length + 1) cs).map fun (items, rest) =>
        (.array items, rest)
    | '\x7b' :: cs =>
      (readItems (readPair (readValue depth)) '\x7d' (cs.length + 1) cs).bind fun (pairs, rest) =>
        (insertAllDotted [] pairs).map fun entries => (.table (tomlEntries entries), rest)
    | _ => readScalar cs

/-! ### Documents -/

/-- What opens a section. -/
inductive Header where
  | table (key : List String)
  | element (key : List String)
  deriving Repr, DecidableEq

/-- A line that says something. -/
inductive Statement where
  | header (header : Header)
  | pair (key : List String) (value : Toml)

/-- Reads a header behind its first bracket. -/
def readHeader (cs : List Char) : Read Header :=
  match cs with
  | '[' :: cs =>
    (readKey cs).bind fun (key, rest) =>
      ((expect? ']' rest).bind (expect? ']')).map fun rest => (.element key, rest)
  | _ =>
    (readKey cs).bind fun (key, rest) =>
      (expect? ']' rest).map fun rest => (.table key, rest)

/-- Reads a statement. -/
def readStatement (cs : List Char) : Read Statement :=
  match cs with
  | '[' :: cs => (readHeader cs).map fun (header, rest) => (.header header, rest)
  | _ => (readPair (readValue deepest) cs).map fun ((key, v), rest) => (.pair key v, rest)

/-- Reads statements, each on a line of its own. -/
def readStatements : Nat → List Char → Option (List Statement)
  | 0, _ => none
  | fuel + 1, cs =>
    match skipGap cs with
    | [] => some []
    | rest =>
      (readStatement rest).bind fun (statement, rest) =>
        (finishLine? rest).bind fun rest =>
          (readStatements fuel rest).map (statement :: ·)

/-- The keys and values before the next header, and the statements from it on. -/
def section? : List Statement → List (List String × Toml) × List Statement
  | .pair key v :: statements =>
    let (pairs, rest) := section? statements
    ((key, v) :: pairs, rest)
  | statements => ([], statements)

/-- Defines what a section says. -/
def define (header : Header) (pairs : List (List String × Toml)) (root : Entries) :
    Option Entries :=
  match header with
  | .table key => updateAt key.dropLast (defineTable (key.getLastD "") pairs) root
  | .element key => updateAt key.dropLast (defineElement (key.getLastD "") pairs) root

/-- Defines section after section; each takes at least one statement. -/
def defineAll : Nat → List Statement → Entries → Option Entries
  | fuel + 1, .header header :: statements, root =>
    let (pairs, rest) := section? statements
    (define header pairs root).bind (defineAll fuel rest)
  | _, _, root => some root

/-- The table that a text is. -/
def read (text : String) : Option (List (String × Toml)) :=
  let cs := Text.dropByteOrderMark text.toList
  (readStatements (cs.length + 1) cs).bind fun statements =>
    let (pairs, rest) := section? statements
    (insertAllDotted [] pairs).bind fun root =>
      (defineAll statements.length rest root).map tomlEntries

end TagTemplate.Toml
