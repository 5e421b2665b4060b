import TagTemplate.Render.Directive

/-!
# Rendering documents

`renderNode` ties the knot: an element is rendered with a renderer for the elements inside of it,
which may go one level less deep. A whole document is its root element, with the plugs put into the
slots and the doctype in front.
-/

namespace TagTemplate

/-- The error of an element: the innermost one that raised it is named, once. -/
def Error.annotated (template : Template) (node : Node) : Error → Error
  | .rendering tag file line cause => .rendering tag file line cause
  | .fault f => .fault f
  | e => .rendering node.tag template.sourcePath node.line e

namespace Rendering

/-- Renders an element with a renderer for those inside. -/
def renderWith (env : Environment) (self : NodeRenderer) : NodeRenderer :=
  fun template id mode => do
  let node ← nodeAt template id
  ExceptT.adapt (Error.annotated template node)
    (match node.directive with
      | some directive => renderDirective env self template node directive
      | none => renderPlain env self template id node mode)

/-- Renders an element with at most `depth` levels of elements inside each other, through children,
includes and calls alike. -/
def renderNode (env : Environment) : Nat → NodeRenderer
  | 0 => fun _ _ _ => throw (.fault .tooDeep)
  | depth + 1 => renderWith env (renderNode env depth)

end Rendering

open Rendering

/-- The finished output: slots are worked off and the doctype stands in front. -/
def RenderState.finish (s : RenderState) (output : String) : String :=
  let output := (s.slots.reconcile output).1
  match s.doctype with
  | some doctype => s!"<!doctype {doctype}>\n{output}"
  | none => output

/-- Renders a whole document in a scope, with elements nested at most `depth` deep. The files are
part of the answer, since templates that are included may be put into the cache. -/
def renderWithin (depth : Nat) (env : Environment) (scope : Scope) (files : FileStore)
    (template : Template) : Except Error String × FileStore :=
  let (result, s) :=
    (renderTemplate (renderNode env depth) template).run (RenderState.start scope files)
  (result.map s.finish, s.files)

/-- How deeply elements may be nested. -/
def nestingLimit : Nat := 10000

/-- Renders a whole document in a scope. -/
def renderDocument (env : Environment) (scope : Scope) (files : FileStore) (template : Template) :
    Except Error String × FileStore :=
  renderWithin nestingLimit env scope files template

end TagTemplate
