import TagTemplate.Text.Search

/-!
# Line numbers

A `LineCursor` turns byte offsets into line numbers. It remembers how far it has counted, so
offsets that grow cost one pass over the text; an offset behind it is counted from the start.
-/

namespace TagTemplate

/-- How far lines have been counted: the text not yet counted, its byte offset and its line. -/
structure LineCursor where
  source : List Char
  rest : List Char
  offset : Nat
  line : Nat
  deriving Repr, DecidableEq

namespace LineCursor

/-- The cursor before the first character. -/
def start (source : List Char) : LineCursor := ⟨source, source, 0, 1⟩

/-- Moves over every character that begins before byte `target`. -/
def skip (target : Nat) : List Char → Nat → Nat → List Char × Nat × Nat
  | [], offset, line => ([], offset, line)
  | c :: cs, offset, line =>
    if offset < target then
      skip target cs (offset + c.utf8Size) (if c = '\n' then line + 1 else line)
    else (c :: cs, offset, line)

/-- The line of a byte offset, counted from one, and the cursor after counting up to it. -/
def lineAt (cursor : LineCursor) (target : Nat) : Nat × LineCursor :=
  if target < cursor.offset then (1 + Text.newlinesIn 0 target 0 cursor.source, cursor)
  else
    let (rest, offset, line) := skip target cursor.rest cursor.offset cursor.line
    (line, { cursor with rest, offset, line })

end LineCursor

end TagTemplate
