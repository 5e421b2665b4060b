import TagTemplate.Json.Number
import TagTemplate.Json.Read
import TagTemplate.Json.Write
import TagTemplate.Template.Tree

/-!
# Cached templates as text

A cache entry is a template with the version of the format and the way it was built, written as one
JSON document. A reader takes a document apart by the names of its fields: each at most once, others
are passed over, and an array stands for the fields in order.

- `Entry.write`, `Entry.read?`: the two directions.
-/

namespace TagTemplate.Cache

/-- What a cache file holds. -/
structure Entry where
  version : Nat
  folded : Bool
  template : Template
  deriving Repr, DecidableEq

/-! ### Writing -/

/-- A child as a document. -/
def ofChild : Child → Json
  | .node id => .record [("Node", .ofNat id)]
  | .text content => .record [("Text", .text content)]

/-- An element as a document. -/
def ofNode (n : Node) : Json :=
  .record
    [("tag", .text n.tag), ("prefix", .text n.nsPrefix),
      ("attributes", .record (n.attributes.entries.map fun (name, value) => (name, .text value))),
      ("children", .array (n.children.map ofChild)), ("self_closing", .bool n.selfClosing),
      ("line", .ofNat n.line), ("parent", .optional Json.ofNat n.parent),
      ("preceding_text", .text n.precedingText),
      ("directive", .optional (fun d => .text (Directive.name d)) n.directive)]

/-- A tree as a document. -/
def ofTree (t : Tree) : Json :=
  .record [("nodes", .array (t.nodes.map ofNode)), ("root", .optional ofChild t.root)]

/-- A template as a document. -/
def ofTemplate (t : Template) : Json :=
  .record
    [("source_path", .text t.sourcePath), ("prefix", .text t.nsPrefix),
      ("default_trans_source", .optional Json.text t.transSource), ("tree", ofTree t.tree)]

/-- An entry as a document. -/
def Entry.toJson (e : Entry) : Json :=
  .record
    [("schema_version", .ofNat e.version), ("folded", .bool e.folded),
      ("template", ofTemplate e.template)]

/-- The text of an entry. -/
def Entry.write (e : Entry) : String := e.toJson.compact

/-! ### Reading -/

/-- The values of the named fields, in the order of the names. -/
def fields? (names : List String) : Json → Option (List (Option Json))
  | .array items => if items.length = names.length then some (items.map some) else none
  | .object members =>
    let named := members.map Prod.fst
    if named.all Option.isSome ∧ names.all fun name => named.count (some name) ≤ 1 then
      some (names.map fun name => members.lookup (some name))
    else none
  | _ => none

/-- A text. -/
def toText? : Json → Option String
  | .string text => text
  | _ => none

/-- A truth value. -/
def toBool? : Json → Option Bool
  | .bool b => some b
  | _ => none

/-- An unsigned integer below a bound. -/
def toIndex? (bound : Nat) : Json → Option Nat
  | .number numeral => numeral.toIndex? bound
  | _ => none

/-- An unsigned 64-bit integer. -/
def toSize? (j : Json) : Option Nat := toIndex? (Nat.pow 2 64) j

/-- Something that may be null or missing. -/
def toOptional? {α : Type} (f : Json → Option α) : Option Json → Option (Option α)
  | none => some none
  | some .null => some none
  | some j => (f j).map some

/-- A list. -/
def toList? {α : Type} (f : Json → Option α) : Json → Option (List α)
  | .array items => items.mapM f
  | _ => none

/-- A map of texts. -/
def toMap? : Json → Option (OrderedMap String)
  | .object members =>
    (members.mapM fun (member : Option String × Json) =>
      member.1.bind fun name => (toText? member.2).map fun value => (name, value)).map
        OrderedMap.ofList
  | _ => none

/-- A child. -/
def toChild? : Json → Option Child
  | .object [(some "Text", content)] => (toText? content).map .text
  | .object [(some "Node", id)] => (toSize? id).map .node
  | _ => none

/-- A directive by its name. -/
def toDirective? : Json → Option Directive
  | .string (some name) => Directive.ofName? name
  | .object [(some name, .null)] => Directive.ofName? name
  | _ => none

/-- An element. -/
def toNode? (j : Json) : Option Node := do
  match ← fields? ["tag", "prefix", "attributes", "children", "self_closing", "line", "parent",
      "preceding_text", "directive"] j with
  | [tag, nsPrefix, attributes, children, selfClosing, line, parent, precedingText, directive] =>
    some
      { tag := ← tag.bind toText?
        nsPrefix := ← nsPrefix.bind toText?
        attributes := ← attributes.bind toMap?
        children := ← children.bind (toList? toChild?)
        selfClosing := ← selfClosing.bind toBool?
        line := ← line.bind toSize?
        parent := ← toOptional? toSize? parent
        precedingText := ← precedingText.bind toText?
        directive := ← toOptional? toDirective? directive }
  | _ => none

/-- A tree. -/
def toTree? (j : Json) : Option Tree := do
  match ← fields? ["nodes", "root"] j with
  | [nodes, root] =>
    some { nodes := ← nodes.bind (toList? toNode?), root := ← toOptional? toChild? root }
  | _ => none

/-- A template. -/
def toTemplate? (j : Json) : Option Template := do
  match ← fields? ["source_path", "prefix", "default_trans_source", "tree"] j with
  | [sourcePath, nsPrefix, transSource, tree] =>
    some
      { sourcePath := ← sourcePath.bind toText?
        nsPrefix := ← nsPrefix.bind toText?
        transSource := ← toOptional? toText? transSource
        tree := ← tree.bind toTree? }
  | _ => none

/-- The entry of a document. -/
def Entry.ofJson? (j : Json) : Option Entry := do
  match ← fields? ["schema_version", "folded", "template"] j with
  | [version, folded, template] =>
    some
      { version := ← version.bind (toIndex? (Nat.pow 2 32))
        folded := ← folded.bind toBool?
        template := ← template.bind toTemplate? }
  | _ => none

/-- The entry that bytes are. -/
def Entry.read? (bytes : ByteArray) : Option Entry := (Json.readBytes bytes).bind Entry.ofJson?

end TagTemplate.Cache
