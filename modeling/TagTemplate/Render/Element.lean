import TagTemplate.Render.Interpolation
import TagTemplate.Render.Walk

/-!
# Rendering elements

Everything here is written over a renderer for the elements inside (`NodeRenderer`). An element is
guarded by its attributes of the template language: `walk`, `cond`, `call`, `plug` and `slot`, in
this order; the element itself comes last.
-/

namespace TagTemplate

/-- How an element is entered. -/
inductive Mode where
  | normal
  /-- As the body of a macro that is being called, so that it is not registered again. -/
  | called
  deriving Repr, DecidableEq

/-- Renders an element of a template. -/
abbrev NodeRenderer := Template → Nat → Mode → Rendering String

/-- Attributes as they are written in an opening tag; those without a value are bare names. -/
def renderedAttributes (attributes : Frame) : String :=
  String.join (attributes.entries.map fun (name, value) =>
    match value with
    | some value => s!" {name}=\"{Markup.escaped value}\""
    | none => s!" {name}")

namespace Rendering

/-- Renders children in order. -/
def renderChildren (self : NodeRenderer) (template : Template) : List Child → Rendering String
  | [] => pure ""
  | .text content :: children => do
    let rest ← renderChildren self template children
    pure (content ++ rest)
  | .node id :: children => do
    let output ← self template id .normal
    let rest ← renderChildren self template children
    pure (output ++ rest)

/-- The children that are directives of a kind. -/
def directiveChildren (template : Template) (directive : Directive) :
    List Child → Rendering (List Nat)
  | [] => pure []
  | .text _ :: children => directiveChildren template directive children
  | .node id :: children => do
    let child ← nodeAt template id
    let rest ← directiveChildren template directive children
    pure (if child.directive = some directive then id :: rest else rest)

/-- What stands inside an element: the value of its `text`, or its children. The attributes that
children make are made in both cases. -/
def renderBody (env : Environment) (self : NodeRenderer) (template : Template) (node : Node) :
    Rendering String :=
  match node.directiveAttribute? "text" with
  | none => renderChildren self template node.children
  | some expression => do
    let attributes ← directiveChildren template .attr node.children
    for id in attributes do
      let _ ← self template id .normal
    evaluateText env expression

/-- Notes the doctype that the root of the outermost template asks for. -/
def noteDoctype (node : Node) : Rendering Unit :=
  modify fun s =>
    match node.directiveAttribute? "doctype" with
    | some doctype =>
      if node.parent.isNone ∧ s.includeDepth = 0 then { s with doctype := some doctype } else s
    | none => s

/-- The attributes of an element as written in its template, with their expressions replaced. -/
def ownAttributes (env : Environment) (attributes : List (String × String)) : Rendering Frame :=
  attributes.foldlM (fun (frame : Frame) (name, raw) => do
    let value ← interpolate env raw
    pure (frame.insert name (some value))) .empty

/-- The written element around a body. -/
def envelope (env : Environment) (node : Node) (body : String) (made : Frame) :
    Rendering String := do
  noteDoctype node
  let own ← ownAttributes env node.plainAttributes
  let opening := "<" ++ node.tag ++ renderedAttributes (own.insertAll made.entries)
  if ← evaluateTruth env (node.directiveAttribute? "void") then pure (opening ++ ">")
  else if node.selfClosing ∧ body = "" then pure (opening ++ "/>")
  else pure (opening ++ ">" ++ body ++ "</" ++ node.tag ++ ">")

/-- Renders an element without its guards. An element of the template language, or a muted one, is
only its body. -/
def renderElement (env : Environment) (self : NodeRenderer) (template : Template) (node : Node) :
    Rendering String := do
  let (body, made) ← withFrame (renderBody env self template node)
  if node.isNamespaced then pure body
  else if ← evaluateTruth env (node.directiveAttribute? "mute") then pure body
  else envelope env node body made

/-- The arguments of a call: its plain attributes, and its `param` children. -/
def callArguments (env : Environment) (self : NodeRenderer) (template : Template) (node : Node) :
    Rendering (OrderedMap Value) := do
  let named ← node.plainAttributes.foldlM (fun (layer : OrderedMap Value) (name, expression) => do
    let value ← evaluate env expression
    pure (layer.insert name value)) .empty
  let params ← directiveChildren template .param node.children
  params.foldlM (fun (layer : OrderedMap Value) id => do
    let param ← nodeAt template id
    let value ← match param.attribute? "value" with
      | some expression => evaluate env expression
      | none => Value.string <$> renderChildren self template param.children
    pure (layer.insert ((param.attribute? "name").getD "") value)) named

/-- Renders the element registered under a name, with the arguments as a layer of the scope. -/
def renderCall (env : Environment) (self : NodeRenderer) (template : Template) (node : Node)
    (name : String) : Rendering String := do
  match (← get).macros.get? name with
  | none => throw (.macroNotFound name)
  | some definition =>
    let layer ← callArguments env self template node
    withLayer (.map layer) (self definition.template definition.node .called)

/-- Renders an element as content for a slot elsewhere. -/
def renderPlug (env : Environment) (self : NodeRenderer) (template : Template) (node : Node)
    (name : String) : Rendering String := do
  let content ← renderElement env self template node
  let append ← evaluateTruth env (node.directiveAttribute? "append")
  modify fun s => { s with slots := s.slots.queuePlug name ⟨content, append⟩ }
  pure ""

/-- Renders an element as a slot with default content. A slot that was met before is a plain
element. -/
def renderSlot (env : Environment) (self : NodeRenderer) (template : Template) (node : Node)
    (name : String) : Rendering String := do
  let (anchor, slots) := (← get).slots.recordSlot name
  match anchor with
  | none => renderElement env self template node
  | some anchor =>
    modify fun s => { s with slots }
    let content ← renderElement env self template node
    modify fun s => { s with slots := s.slots.setLength name content.utf8ByteSize }
    pure (anchor ++ content)

/-- Renders an element with all its guards but `walk`. -/
def renderGuarded (env : Environment) (self : NodeRenderer) (template : Template) (node : Node) :
    Rendering String := do
  let holds ← match node.directiveAttribute? "cond" with
    | some condition => evaluateTruth env (some condition)
    | none => pure true
  if !holds then pure ""
  else match node.directiveAttribute? "call" with
  | some name => renderCall env self template node name
  | none =>
    match node.directiveAttribute? "plug" with
    | some name => renderPlug env self template node name
    | none =>
      match node.directiveAttribute? "slot" with
      | some name => renderSlot env self template node name
      | none => renderElement env self template node

/-- Renders an element that is no directive. One with the attribute `macro` is registered instead,
unless it is being called. -/
def renderPlain (env : Environment) (self : NodeRenderer) (template : Template) (id : Nat)
    (node : Node) (mode : Mode) : Rendering String :=
  let unregistered :=
    match node.directiveAttribute? "walk" with
    | some expression => renderWalk env (renderGuarded env self template node) node expression
    | none => renderGuarded env self template node
  match mode, node.directiveAttribute? "macro" with
  | .normal, some name => do
    modify fun s => { s with macros := s.macros.insert name ⟨template, id⟩ }
    pure ""
  | _, _ => unregistered

end Rendering

end TagTemplate
