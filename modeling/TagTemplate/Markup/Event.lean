import TagTemplate.Markup.Doctype
import TagTemplate.Markup.Tag

/-!
# Markup as events

`events` cuts a document into tags, text, references and the asides nobody reads (comments,
instructions and declarations), each with the byte offsets of its two ends. Closing tags must name
the element they close. A byte order mark at the start is skipped without being counted.
-/

namespace TagTemplate.Markup

open TagTemplate.Text

/-- One piece of a document. -/
inductive Event where
  | start (tag : Tag)
  /-- A tag that ends in `/>`. -/
  | empty (tag : Tag)
  /-- A closing tag. -/
  | stop
  | text (content : List Char)
  | literal (content : List Char)
  | reference (name : List Char)
  | aside
  deriving Repr, DecidableEq

/-- An event with the byte offsets before and after it. -/
structure Located where
  event : Event
  first : Nat
  last : Nat
  deriving Repr, DecidableEq

/-- A fault with the byte offset it is reported at. -/
structure Failure where
  fault : Fault
  position : Nat
  deriving Repr, DecidableEq

/-- The unread part of a document: its text, its byte offset and the names of the open elements,
innermost first. -/
structure Cursor where
  rest : List Char
  offset : Nat
  opened : List (List Char)
  deriving Repr, DecidableEq

/-- What reading one event gives. -/
abbrev Reading := Except Failure (Located × Cursor)

/-- The reading of an event that takes `bytes` bytes and leaves `rest`. -/
def Cursor.take (cursor : Cursor) (event : Event) (bytes : Nat) (rest : List Char)
    (opened : List (List Char)) : Reading :=
  let last := cursor.offset + bytes
  .ok (⟨event, cursor.offset, last⟩, ⟨rest, last, opened⟩)

/-- The fault reported at the cursor. -/
def Cursor.fail (cursor : Cursor) (fault : Fault) : Reading := .error ⟨fault, cursor.offset⟩

/-- Cuts at the first `>` outside quotes; `quote` is the open quote. Without one the answer is the
quote still open at the end. -/
def breakTag : Option Char → List Char → Except (Option Char) (List Char × List Char)
  | quote, [] => .error quote
  | none, c :: cs =>
    if c = '>' then .ok ([], cs)
    else
      (breakTag (if c = '\'' ∨ c = '"' then some c else none) cs).map fun (before, after) =>
        (c :: before, after)
  | some q, c :: cs =>
    (breakTag (if c = q then none else some q) cs).map fun (before, after) => (c :: before, after)

/-- The fault of a tag that does not end. -/
def endlessTag : Option Char → Fault
  | none => .unclosedTag
  | some quote => .unclosedQuote quote

/-- Reads an opening or empty tag; `inner` is the text after `<`. -/
def Cursor.readStart (cursor : Cursor) (inner : List Char) : Reading :=
  match breakTag none inner with
  | .error quote => cursor.fail (endlessTag quote)
  | .ok (content, rest) =>
    let bytes := byteLength content + 2
    match dropEnding? ['/'] content with
    | some content => cursor.take (.empty (Tag.ofContent content)) bytes rest cursor.opened
    | none =>
      let tag := Tag.ofContent content
      cursor.take (.start tag) bytes rest (tag.name :: cursor.opened)

/-- The name in a closing tag: blanks at its end do not count, unless there is nothing else. -/
def closingName (content : List Char) : List Char :=
  if content.all isMarkupBlank then content
  else (content.reverse.dropWhile isMarkupBlank).reverse

/-- Reads a closing tag; `inner` is the text after `</`. -/
def Cursor.readEnd (cursor : Cursor) (inner : List Char) : Reading :=
  match breakTag none inner with
  | .error quote => cursor.fail (endlessTag quote)
  | .ok (content, rest) =>
    let found := closingName content
    match cursor.opened with
    | [] => cursor.fail (.unmatchedEnd (String.ofList found))
    | expected :: opened =>
      if found = expected then cursor.take .stop (byteLength content + 3) rest opened
      else cursor.fail (.mismatchedEnd (String.ofList expected) (String.ofList found))

/-- An unclosed instruction is an unclosed XML declaration when it begins like one. -/
def unclosedInstruction (inner : List Char) : Fault :=
  match ['x', 'm', 'l'].isPrefixOf? inner with
  | some [] => .unclosedDeclaration
  | some (c :: _) =>
    if isMarkupBlank c || c == '?' then .unclosedDeclaration else .unclosedInstruction
  | none => .unclosedInstruction

/-- Reads an instruction or an XML declaration; `inner` is the text after `<?`. -/
def Cursor.readInstruction (cursor : Cursor) (inner : List Char) : Reading :=
  match inner with
  | '>' :: _ => cursor.fail .unclosedInstruction
  | _ =>
    match breakOn? ['?', '>'] inner with
    | some (content, rest) => cursor.take .aside (byteLength content + 4) rest cursor.opened
    | none => cursor.fail (unclosedInstruction inner)

/-- Reads a document type declaration; `inner` is the text after `<!`. -/
def Cursor.readDoctype (cursor : Cursor) (inner : List Char) : Reading :=
  if (inner.take 7).map Char.toUpper = ['D', 'O', 'C', 'T', 'Y', 'P', 'E'] then
    match breakDoctype? (.head none) (inner.drop 7) with
    | none => cursor.fail .unclosedDoctype
    | some (content, rest) =>
      let bytes := byteLength content + 10
      if content.all isMarkupBlank then .error ⟨.namelessDoctype, cursor.offset + bytes - 1⟩
      else cursor.take .aside bytes rest cursor.opened
  else cursor.fail .unclosedDoctype

/-- Reads a comment, literal text or a declaration; `inner` is the text after `<!`. -/
def Cursor.readBang (cursor : Cursor) (inner : List Char) : Reading :=
  match inner with
  | '[' :: _ =>
    match (['[', 'C', 'D', 'A', 'T', 'A', '['].isPrefixOf? inner).bind
      (breakOn? [']', ']', '>']) with
    | some (content, rest) =>
      cursor.take (.literal content) (byteLength content + 12) rest cursor.opened
    | none => cursor.fail .unclosedCData
  | '-' :: _ =>
    match (['-', '-'].isPrefixOf? inner).bind (breakOn? ['-', '-', '>']) with
    | some (content, rest) => cursor.take .aside (byteLength content + 7) rest cursor.opened
    | none => cursor.fail .unclosedComment
  | c :: _ => if c = 'D' ∨ c = 'd' then cursor.readDoctype inner else cursor.fail .unknownMarkup
  | [] => cursor.fail .unknownMarkup

/-- Reads a reference; `inner` is the text after `&`. -/
def Cursor.readReference (cursor : Cursor) (inner : List Char) : Reading :=
  let (name, rest) := inner.span fun c => c ≠ ';' && c ≠ '&' && c ≠ '<'
  match rest with
  | ';' :: rest => cursor.take (.reference name) (byteLength name + 2) rest cursor.opened
  | _ => cursor.fail .unclosedReference

/-- Reads the event that begins with `c :: cs`. -/
def Cursor.read (cursor : Cursor) (c : Char) (cs : List Char) : Reading :=
  if c = '<' then
    match cs with
    | [] => cursor.fail .unclosedTag
    | '!' :: inner => cursor.readBang inner
    | '/' :: inner => cursor.readEnd inner
    | '?' :: inner => cursor.readInstruction inner
    | _ => cursor.readStart cs
  else if c = '&' then cursor.readReference cs
  else
    let (content, rest) := (c :: cs).span fun d => d ≠ '<' && d ≠ '&'
    cursor.take (.text content) (byteLength content) rest cursor.opened

/-- The events from the cursor on, and the failure that stops them if one does. Each event takes at
least one character, so `fuel` is the text's length. -/
def eventsFrom : Nat → Cursor → List Located × Option Failure
  | 0, _ => ([], none)
  | fuel + 1, cursor =>
    match cursor.rest with
    | [] => ([], none)
    | c :: cs =>
      match cursor.read c cs with
      | .error failure => ([], some failure)
      | .ok (event, next) =>
        let (events, failure) := eventsFrom fuel next
        (event :: events, failure)

/-- The events of a document, and the failure that stops them if one does. -/
def events (source : List Char) : List Located × Option Failure :=
  let text := dropByteOrderMark source
  eventsFrom (text.length + 1) ⟨text, 0, []⟩

end TagTemplate.Markup
