import TagTemplate.Markup.Event
import TagTemplate.Template.Builder
import TagTemplate.Template.Lines

/-!
# Reading templates

A template is built from the events of its source. Errors carry the line of the event that raised
them and the path of the template.
-/

namespace TagTemplate

open TagTemplate.Markup

namespace Builder

/-- Takes an opening tag in as it was written. -/
def openTag (b : Builder) (tag : Tag) (line : Nat) : Except Error Builder :=
  match tag.attributes with
  | .error fault => .error (b.error fault.message line)
  | .ok attributes =>
    let (result, b) := b.openElement (String.ofList tag.name) (OrderedMap.ofList attributes) line
    result.map fun _ => b

/-- Takes a closing tag in that ends at byte `offset`. -/
def closeTag (b : Builder) (offset line : Nat) : Except Error Builder :=
  let (result, b) := b.closeElement offset line
  result.map fun _ => b

/-- Takes text in as it was written. -/
def addCharacters (b : Builder) (content : List Char) (line : Nat) : Except Error Builder :=
  let (result, b) := b.addText (String.ofList content) line
  result.map fun _ => b

/-- Takes an event in. -/
def add (b : Builder) (e : Located) (line : Nat) : Except Error Builder :=
  match e.event with
  | .start tag => b.openTag tag line
  | .empty tag => (b.openTag tag line).bind (·.closeTag e.last line)
  | .stop => b.closeTag e.last line
  | .text content => b.addCharacters content line
  | .literal content => b.addCharacters content line
  | .reference name => b.addCharacters ('&' :: name ++ [';']) line
  | .aside => .ok b

/-- Takes events in one after the other. -/
def addAll : Builder → LineCursor → List Located → Except Error (Builder × LineCursor)
  | b, lines, [] => .ok (b, lines)
  | b, lines, e :: es =>
    let (line, lines) := lines.lineAt e.first
    (b.add e line).bind fun b => b.addAll lines es

end Builder

/-- Reads a template whose errors do not name it yet. -/
def Template.readSource (source : List Char) (sourcePath : String) (fold : Bool) :
    Except Error Template := do
  let (events, failure) := events source
  let (b, lines) ← (Builder.start source fold).addAll (LineCursor.start source) events
  match failure with
  | some failure => .error (b.error failure.fault.message (lines.lineAt failure.position).1)
  | none => b.finish sourcePath (lines.lineAt (Text.byteLength source)).1

/-- Reads a template. -/
def Template.read (source : String) (sourcePath : String) (fold : Bool) : Except Error Template :=
  (Template.readSource source.toList sourcePath fold).mapError (Error.withFile sourcePath)

end TagTemplate
