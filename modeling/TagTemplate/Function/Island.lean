import TagTemplate.Function.Basic
import TagTemplate.Island.Read
import TagTemplate.Island.Select

/-!
# XML islands in expressions
-/

namespace TagTemplate.Function

/-- Reads text as a document; a second argument names an element to wrap around it.

All documents get one identity. `Value.equal` alone looks at it, and no function of this library and
nothing that renders compares values by `Value.equal`: functions order documents by the text they
are written as (`compareValues`), and a document is walked, tested and queried by what it holds. -/
def xml : Function := fun call arguments => do
  call.expect arguments 1 (some 2)
  let source := (arguments.getD 0 .null).output
  let root := arguments[1]?.map fun root => root.output.toList
  let document ← Island.readIsland root source.toList
  .ok (.document 0 document)

/-- The document an argument holds; text is read as one. -/
def queried (call : Call) : Value → Except Error Island.Document
  | .document _ d => .ok d
  | .string source => Island.readIsland none source.toList
  | _ => call.fail "expected a document returned by xml()"

/-- What a query answers: nothing, the text of the only node, or a list of texts. -/
def selection : List String → Value
  | [] => .null
  | [text] => .string text
  | texts => .list (texts.map Value.string)

/-- The texts of the nodes that a query selects in a document. -/
def xpath : Function := fun call arguments => do
  let (document, query) ← call.two arguments
  let document ← queried call document
  match document.select query.output with
  | .error fault => call.fail fault.message
  | .ok nodes => .ok (selection (nodes.map Island.Match.textContent))

end TagTemplate.Function
