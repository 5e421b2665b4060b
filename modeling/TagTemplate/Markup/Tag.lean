import TagTemplate.Markup.Reference
import TagTemplate.Text.Blank

/-!
# Tags and their attributes

A tag is the text between angle brackets: a name up to the first blank, then attributes written
`key = 'value'` or `key = "value"`. Blanks are optional everywhere but inside keys.
-/

namespace TagTemplate.Markup

open TagTemplate.Text

/-- The inside of an opening tag, without its angle brackets and closing slash. -/
structure Tag where
  name : List Char
  /-- What follows the name. -/
  rest : List Char
  deriving Repr, DecidableEq

/-- Cuts a tag's inside after its name. -/
def Tag.ofContent (content : List Char) : Tag :=
  let (name, rest) := content.span fun c => !isMarkupBlank c
  ⟨name, rest⟩

/-- An attribute as written: its key, the key's position, and the value before references are
replaced. -/
structure RawAttribute where
  key : List Char
  position : Nat
  value : List Char

/-- Reads the attribute that begins with `c :: cs` at byte `position`. The answer holds the text
after the attribute and its position. `seen` holds the keys before it with their positions. -/
def readAttribute (seen : List (List Char × Nat)) (position : Nat) (c : Char) (cs : List Char) :
    Except AttributeFault (RawAttribute × Nat × List Char) :=
  let (keyTail, afterKey) := cs.span fun d => d ≠ '=' && !isMarkupBlank d
  let key := c :: keyTail
  let (gap, afterGap) := afterKey.span isMarkupBlank
  let equals := position + byteLength key + gap.length
  match afterGap with
  | '=' :: afterEquals =>
    match seen.lookup key with
    | some previous => .error (.duplicate position previous)
    | none =>
      let (gap, afterGap) := afterEquals.span isMarkupBlank
      let start := equals + 1 + gap.length
      match afterGap with
      | [] => .error (.noValue start)
      | quote :: inner =>
        if quote = '"' ∨ quote = '\'' then
          let (value, rest) := inner.span fun d => d ≠ quote
          let stop := start + 1 + byteLength value
          match rest with
          | [] => .error (.unclosedQuote stop quote)
          | _ :: rest => .ok (⟨key, position, value⟩, stop + 1, rest)
        else .error (.unquoted start)
  | _ => .error (.noEquals equals)

/-- Reads attributes to the end of the tag; each takes at least one character, so `fuel` is the
text's length. -/
def readAttributes : Nat → List (List Char × Nat) → Nat → List Char →
    Except AttributeFault (List (String × String))
  | 0, _, _, _ => .ok []
  | fuel + 1, seen, position, cs =>
    let (blanks, cs) := cs.span isMarkupBlank
    match cs with
    | [] => .ok []
    | c :: cs => do
      let (raw, position, rest) ← readAttribute seen (position + blanks.length) c cs
      let value ← unescape raw.value
      let others ← readAttributes fuel (seen ++ [(raw.key, raw.position)]) position rest
      .ok ((String.ofList raw.key, String.ofList value) :: others)

/-- The attributes of a tag in order, with the references in their values replaced. -/
def Tag.attributes (tag : Tag) : Except AttributeFault (List (String × String)) :=
  readAttributes (tag.rest.length + 1) [] (byteLength tag.name) tag.rest

end TagTemplate.Markup
