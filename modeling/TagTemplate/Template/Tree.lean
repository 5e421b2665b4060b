import TagTemplate.OrderedMap
import TagTemplate.Template.Directive

/-!
# Templates as trees

A template holds its elements in one list, in document order. Elements refer to their parent and to
their children by position in that list; text is kept with the element it stands in.
-/

namespace TagTemplate

/-- A child of an element: an element by its position, or text. -/
inductive Child where
  | node (id : Nat)
  | text (content : String)
  deriving Repr, DecidableEq

/-- An element of a template. -/
structure Node where
  /-- The tag as written, namespace prefix included. -/
  tag : String
  /-- The namespace prefix of the template the element was written in. -/
  nsPrefix : String
  /-- The attributes as written, in order. -/
  attributes : OrderedMap String
  children : List Child
  selfClosing : Bool
  line : Nat
  parent : Option Nat
  /-- The text between the opening tag before this one and this one. -/
  precedingText : String
  directive : Option Directive
  deriving Repr, DecidableEq

/-- The elements of a template, and the child that is its root. -/
structure Tree where
  nodes : List Node
  root : Option Child
  deriving Repr, DecidableEq

/-- A template: its tree and what its root element says about all of it. -/
structure Template where
  sourcePath : String
  nsPrefix : String
  /-- Where translations come from that name no source of their own. -/
  transSource : Option String
  tree : Tree
  deriving Repr, DecidableEq

namespace Node

/-- A tag with the prefix is not written itself; its body is. -/
def isNamespaced (n : Node) : Bool := Text.beginsWith n.nsPrefix n.tag

/-- The attribute belongs to the template language. -/
def isDirectiveAttribute (n : Node) (name : String) : Bool := Text.beginsWith n.nsPrefix name

/-- The value of the attribute `name` behind the namespace prefix. -/
def directiveAttribute? (n : Node) (name : String) : Option String :=
  n.attributes.get? (n.nsPrefix ++ name)

/-- The attributes that are written to the output. -/
def plainAttributes (n : Node) : List (String × String) :=
  n.attributes.entries.filter fun entry => !n.isDirectiveAttribute entry.1

/-- The value of an attribute under its whole name. -/
def attribute? (n : Node) (name : String) : Option String := n.attributes.get? name

end Node

/-- The element at a position. -/
def Tree.node? (t : Tree) (id : Nat) : Option Node := t.nodes[id]?

end TagTemplate
