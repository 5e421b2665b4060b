import TagTemplate.Error
import TagTemplate.Island.Basic
import TagTemplate.Markup.Event

/-!
# Reading XML islands

A document is read from the events of its markup with a stack of open elements. `read` wants
exactly one root element; `readIsland` wraps the source in an element when it has none.
-/

namespace TagTemplate.Island

open TagTemplate.Markup TagTemplate.Text

/-- An open element with the children read so far, last first. -/
structure Frame where
  name : String
  attributes : OrderedMap String
  children : List Node

/-- What has been read: the open elements, innermost first, and the finished root. -/
structure Progress where
  opened : List Frame
  root : Option Document

/-- Adds text to the children of an element; neighbouring texts become one. -/
def addText (content : String) : List Node → List Node
  | .text before :: children => .text (before ++ content) :: children
  | children => .text content :: children

/-- Puts text into the innermost open element. Outside of the root only blanks may stand. -/
def Progress.text (p : Progress) (content : List Char) : Except String Progress :=
  match p.opened with
  | frame :: opened =>
    let children := addText (String.ofList content) frame.children
    .ok { p with opened := { frame with children } :: opened }
  | [] => if allBlank content then .ok p else .error "text outside of the root element"

/-- Opens an element. -/
def Progress.open (p : Progress) (tag : Tag) : Except String Progress :=
  match tag.attributes with
  | .error fault => .error fault.message
  | .ok attributes =>
    .ok { p with
      opened := ⟨String.ofList tag.name, OrderedMap.ofList attributes, []⟩ :: p.opened }

/-- Closes the innermost open element. -/
def Progress.close (p : Progress) : Except String Progress :=
  match p.opened with
  | [] => .error "unexpected closing tag"
  | frame :: outer :: opened =>
    let node := .element frame.name frame.attributes frame.children.reverse
    .ok { p with opened := { outer with children := node :: outer.children } :: opened }
  | [frame] =>
    if p.root.isSome then .error "more than one root element"
    else .ok ⟨[], some ⟨frame.name, frame.attributes, frame.children.reverse⟩⟩

/-- Takes one event in. -/
def Progress.add (p : Progress) : Event → Except String Progress
  | .start tag => p.open tag
  | .empty tag => (p.open tag).bind Progress.close
  | .stop => p.close
  | .text content => p.text content
  | .literal content => p.text content
  | .reference name =>
    match resolve? name with
    | some c => p.text [c]
    | none => .error s!"unknown entity `&{String.ofList name};`"
  | .aside => .ok p

/-- The error of an island; its line is that of the given byte offset. -/
def islandError (source : List Char) (position : Nat) (problem : String) : Error :=
  .malformed ("xml(): " ++ problem) (1 + newlinesIn 0 position 0 source) ""

/-- Takes events in one after the other; an error is reported where its event ends. -/
def Progress.addAll (source : List Char) : Progress → List Located → Except Error Progress
  | p, [] => .ok p
  | p, e :: es =>
    match p.add e.event with
    | .error problem => .error (islandError source e.last problem)
    | .ok p => p.addAll source es

/-- The document once all events are in. -/
def Progress.finish (source : List Char) (p : Progress) : Except Error Document :=
  let fail (problem : String) := .error (islandError source (byteLength source) problem)
  match p.opened, p.root with
  | frame :: _, _ => fail s!"unclosed element <{frame.name}>"
  | [], some document => .ok document
  | [], none => fail "no root element"

/-- Reads a document that has exactly one root element. -/
def read (source : List Char) : Except Error Document := do
  let (events, failure) := events source
  let progress ← Progress.addAll source ⟨[], none⟩ events
  match failure with
  | some failure => .error (islandError source failure.position failure.fault.message)
  | none => progress.finish source

/-- The source inside an element. -/
def wrap (root source : List Char) : List Char :=
  '<' :: root ++ '>' :: source ++ '<' :: '/' :: root ++ ['>']

/-- The element put around an island that has no root of its own. -/
def implicitRoot : List Char := ['x', 'm', 'l']

/-- Reads an island. A given root is always wrapped around the source; without one the source is
read as it is, and wrapped in the implicit root when that fails. -/
def readIsland (root : Option (List Char)) (source : List Char) : Except Error Document :=
  match root with
  | some root => read (wrap root source)
  | none =>
    match read source with
    | .ok document => .ok document
    | .error _ => read (wrap implicitRoot source)

end TagTemplate.Island
