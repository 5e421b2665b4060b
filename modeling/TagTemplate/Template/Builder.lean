import TagTemplate.Error
import TagTemplate.Markup.Reference
import TagTemplate.Template.Tree
import TagTemplate.Text.Blank

/-!
# Building templates

A `Builder` takes the opening tags, closing tags and texts of a document in order and ends with a
template. With `fold` on, an element is replaced by its own text as soon as it closes if nothing in
it depends on data: no directive, no attribute of the template language, no brace in an attribute
and no element left inside.

Every operation answers with the builder after it, whether or not it fails.
-/

namespace TagTemplate

open TagTemplate.Text

/-- The namespace prefix of a template that declares none. -/
def defaultPrefix : String := "tl:"

/-- The word in the value of an attribute that declares the namespace. -/
def namespaceSignature : String := "tagloom"

/-- What the attribute that declares the namespace begins with. -/
def namespaceDeclaration : String := "xmlns:"

/-- The state of a document being built. -/
structure Builder where
  source : List Char
  fold : Bool
  /-- Known from the first opening tag on. -/
  nsPrefix? : Option String
  transSource : Option String
  nodes : List Node
  root : Option Child
  /-- The elements that are open, innermost first. -/
  opened : List Nat
  /-- The text since the last opening tag. -/
  pending : String
  deriving Repr, DecidableEq

/-- Adds text to children; it continues a text at their end. -/
def appendText (children : List Child) (content : String) : List Child :=
  match children.getLast? with
  | some (.text before) => children.dropLast ++ [.text (before ++ content)]
  | _ => children ++ [.text content]

/-- Attributes as they are written in an opening tag, each after a space. -/
def writtenAttributes (attributes : List (String × String)) : String :=
  String.join (attributes.map fun (name, value) => s!" {name}=\"{Markup.escaped value}\"")

namespace Node

/-- All the text among the children. -/
def ownText (n : Node) : String :=
  String.join (n.children.map fun
    | .text content => content
    | .node _ => "")

/-- Nothing in the element depends on data. -/
def isFoldable (n : Node) : Bool :=
  n.directive.isNone
    && !n.attributes.keys.any n.isDirectiveAttribute
    && !n.attributes.values.any (fun value => value.toList.contains '\x7b')
    && n.children.all fun
      | .text _ => true
      | .node _ => false

/-- The element written out. -/
def folded (n : Node) : String :=
  let body := n.ownText
  let attributes := writtenAttributes n.plainAttributes
  if n.isNamespaced then body
  else if n.selfClosing ∧ body = "" then s!"<{n.tag}{attributes}/>"
  else s!"<{n.tag}{attributes}>{body}</{n.tag}>"

end Node

namespace Builder

/-- The builder before the first tag. -/
def start (source : List Char) (fold : Bool) : Builder :=
  ⟨source, fold, none, none, [], none, [], ""⟩

/-- The namespace prefix, as far as it is known. -/
def nsPrefix (b : Builder) : String := b.nsPrefix?.getD defaultPrefix

/-- The innermost open element. -/
def innermost? (b : Builder) : Option Node := b.opened.head?.bind fun id => b.nodes[id]?

/-- The error of a malformed document; it names the innermost open element. -/
def error (b : Builder) (problem : String) (line : Nat) : Error :=
  match b.innermost? with
  | some n => .malformed s!"{problem}. Last element: {n.tag}({n.line})" line ""
  | none => .malformed problem line ""

/-- The prefix that an attribute declares for the namespace. -/
def declaredPrefix? (name value : String) : Option String :=
  (afterStart? namespaceDeclaration name).bind fun declared =>
    if declared ≠ "" ∧ contains namespaceSignature value then some (declared ++ ":") else none

/-- Takes the namespace and the source of translations from the first element's attributes. The
attributes that say so are not kept. -/
def capture (b : Builder) (attributes : OrderedMap String) : Builder × OrderedMap String :=
  let declaration := attributes.entries.findSome? fun (name, value) =>
    (declaredPrefix? name value).map fun declared => (name, declared)
  let (declared, attributes) := match declaration with
    | some (name, declared) => (declared, attributes.erase name)
    | none => (defaultPrefix, attributes)
  let source := declared ++ "trans"
  ({ b with nsPrefix? := some declared, transSource := attributes.get? source },
    attributes.erase source)

/-- The first attribute that a directive requires and does not have. -/
def missing? (directive : Option Directive) (attributes : OrderedMap String) : Option String :=
  directive.bind fun d => d.required.find? fun name => !attributes.contains name

/-- Replaces the children of an element. -/
def updateChildren (id : Nat) (f : List Child → List Child) (nodes : List Node) : List Node :=
  nodes.modify id fun n => { n with children := f n.children }

/-- Adds an element inside the innermost open one, or as the root. -/
def addNode (b : Builder) (tag : String) (attributes : OrderedMap String) (line : Nat)
    (directive : Option Directive) : Builder :=
  let id := b.nodes.length
  let node : Node :=
    ⟨tag, b.nsPrefix, attributes, [], true, line, b.opened.head?, b.pending, directive⟩
  let nodes := match b.opened.head? with
    | some parent =>
      b.nodes.modify parent fun n =>
        { n with children := n.children ++ [.node id], selfClosing := false }
    | none => b.nodes
  let root := if b.opened.isEmpty then some (.node id) else b.root
  { b with nodes := nodes ++ [node], root, opened := id :: b.opened, pending := "" }

/-- Takes an opening tag in. -/
def openElement (b : Builder) (tag : String) (attributes : OrderedMap String) (line : Nat) :
    Except Error Unit × Builder :=
  if b.opened.isEmpty ∧ b.root.isSome then
    (.error (b.error "document has more than one root element" line), b)
  else
    let (b, attributes) := if b.nsPrefix?.isNone then b.capture attributes else (b, attributes)
    let directive := Directive.ofTag? b.nsPrefix tag
    match missing? directive attributes with
    | some name => (.error (.requiredAttribute tag name line ""), b)
    | none => (.ok (), b.addNode tag attributes line directive)

/-- The text up to a byte offset ends in `/>`, blanks aside. -/
def endsInSlash (source : List Char) (offset : Nat) : Bool :=
  (takeBytes? offset source).any fun before =>
    (dropEnding? ['/', '>'] (trimEnd before)).isSome

/-- Replaces an element by its text. Everything after it in the list of elements is inside it. -/
def foldNode (b : Builder) (id : Nat) (node : Node) : Builder :=
  let nodes := b.nodes.take id
  match node.parent with
  | some parent =>
    { b with
      nodes := updateChildren parent (fun children => appendText children.dropLast node.folded)
        nodes }
  | none => { b with nodes, root := some (.text node.folded) }

/-- Takes a closing tag in. `offset` is the byte after it; a tag that closes itself ends in `/>`. -/
def closeElement (b : Builder) (offset line : Nat) : Except Error Unit × Builder :=
  match b.opened with
  | [] => (.error (b.error "closing tag without a matching opening tag" line), b)
  | id :: opened =>
    match b.nodes[id]? with
    | none => (.ok (), { b with opened })
    | some node =>
      let node := { node with
        selfClosing := node.selfClosing && node.children.isEmpty && endsInSlash b.source offset }
      let b := { b with nodes := b.nodes.set id node, opened }
      (.ok (), if b.fold && node.isFoldable then b.foldNode id node else b)

/-- Takes text in. Outside of the root only blanks may stand. -/
def addText (b : Builder) (content : String) (line : Nat) : Except Error Unit × Builder :=
  match b.opened with
  | [] =>
    if allBlank content.toList then (.ok (), b)
    else (.error (b.error "text outside of the root element" line), b)
  | id :: _ =>
    let nodes := b.nodes.modify id fun n =>
      { n with children := appendText n.children content, selfClosing := false }
    (.ok (), { b with nodes, pending := b.pending ++ content })

/-- The template, once everything is in. -/
def finish (b : Builder) (sourcePath : String) (line : Nat) : Except Error Template :=
  if !b.opened.isEmpty then .error (b.error "unexpected end of document" line)
  else if b.root.isNone then .error (b.error "document has no root element" line)
  else .ok ⟨sourcePath, b.nsPrefix, b.transSource, ⟨b.nodes, b.root⟩⟩

end Builder

end TagTemplate
