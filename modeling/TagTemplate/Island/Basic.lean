import TagTemplate.OrderedMap
import TagTemplate.Text.Quoted

/-!
# XML islands

The tree that `xml()` reads from a string: elements with attributes and children, and text. The
root of a document is an element.
-/

namespace TagTemplate.Island

/-- A node of a document. -/
inductive Node where
  | text (content : String)
  | element (name : String) (attributes : OrderedMap String) (children : List Node)
  deriving Repr, Inhabited

/-- A document is its root element. -/
structure Document where
  name : String
  attributes : OrderedMap String
  children : List Node
  deriving Repr, Inhabited

/-- The root as a node. -/
def Document.root (d : Document) : Node := .element d.name d.attributes d.children

mutual

/-- The text of a node with all tags taken out. -/
def Node.textContent : Node → String
  | .text content => content
  | .element _ _ children => contentOf children

/-- The text of several nodes with all tags taken out. -/
def contentOf : List Node → String
  | [] => ""
  | n :: ns => n.textContent ++ contentOf ns

end

/-- The text of a document with all tags taken out. -/
def Document.textContent (d : Document) : String := contentOf d.children

/-! ## The inspection form

What a document prints as when it is written out whole: a record per element, quoted text. -/

/-- A brace-delimited record. -/
def braced (opening body closing : String) : String :=
  opening ++ "\x7b" ++ body ++ "\x7d" ++ closing

/-- The attributes of an element, each `"name": "value"`. -/
def inspectAttributes (attributes : OrderedMap String) : String :=
  braced "" (", ".intercalate
    (attributes.entries.map fun (key, value) => Text.quoted key ++ ": " ++ Text.quoted value)) ""

/-- An element given the inspection form of its children. -/
def inspectElement (name : String) (attributes : OrderedMap String) (children : List String) :
    String :=
  braced "XmlElement "
    (" name: " ++ Text.quoted name ++ ", attributes: " ++ inspectAttributes attributes ++
      ", children: [" ++ ", ".intercalate children ++ "] ") ""

mutual

/-- A node in inspection form. -/
def Node.inspect : Node → String
  | .text content => "Text(" ++ Text.quoted content ++ ")"
  | .element name attributes children =>
    "Element(" ++ inspectElement name attributes (inspectAll children) ++ ")"

/-- Several nodes in inspection form. -/
def inspectAll : List Node → List String
  | [] => []
  | n :: ns => n.inspect :: inspectAll ns

end

/-- A document in inspection form. -/
def Document.inspect (d : Document) : String :=
  braced "XmlDocument "
    (" root: " ++ inspectElement d.name d.attributes (inspectAll d.children) ++ " ") ""

end TagTemplate.Island
