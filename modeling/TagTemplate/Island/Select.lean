import TagTemplate.Island.Query
import TagTemplate.Island.Basic

/-!
# Selecting nodes

`Document.select` follows the steps of a query from the document down. A node is known by its
address, the indices of the children on the way to it from the root. Every element is selected
once; texts and attributes are selected once for each element of the last step that reaches them.
-/

namespace TagTemplate.Island

/-- The indices of the children on the way from the root element to a node. -/
abbrev Address := List Nat

/-- An element of a document with its address. -/
structure Place where
  address : Address
  name : String
  attributes : OrderedMap String
  children : List Node

/-- What steps start from: the document itself, above its root element, or an element. -/
inductive Context where
  | document
  | element (place : Place)

/-- A node that a query selects. -/
inductive Match where
  | element (place : Place)
  | text (address : Address) (content : String)
  | attr (address : Address) (name value : String)

/-- The text of a selected node. -/
def Match.textContent : Match → String
  | .element place => contentOf place.children
  | .text _ content => content
  | .attr _ _ value => value

/-- The root element with its address. -/
def Document.place (d : Document) : Place := ⟨[], d.name, d.attributes, d.children⟩

/-- The elements among children; `index` is the index of the first of them. -/
def elementsFrom (address : Address) : (index : Nat) → List Node → List Place
  | _, [] => []
  | index, .text _ :: ns => elementsFrom address (index + 1) ns
  | index, .element name attributes children :: ns =>
    ⟨address ++ [index], name, attributes, children⟩ :: elementsFrom address (index + 1) ns

/-- The elements directly below a context. -/
def Context.elements (d : Document) : Context → List Place
  | .document => [d.place]
  | .element place => elementsFrom place.address 0 place.children

mutual

/-- The number of elements in a node. -/
def Node.elementCount : Node → Nat
  | .text _ => 0
  | .element _ _ children => elementCounts children + 1

/-- The number of elements in several nodes. -/
def elementCounts : List Node → Nat
  | [] => 0
  | n :: ns => n.elementCount + elementCounts ns

end

/-- A context followed by every element below it, level by level: each context taken off the queue
puts its own elements at the end. `fuel` bounds the number of contexts. -/
def breadthFirst (d : Document) : (fuel : Nat) → List Context → List Context
  | 0, _ => []
  | _ + 1, [] => []
  | fuel + 1, c :: queue =>
    c :: breadthFirst d fuel (queue ++ (c.elements d).map Context.element)

/-- A context and every element below it. -/
def Context.selfAndDescendants (d : Document) (c : Context) : List Context :=
  breadthFirst d (d.root.elementCount + 1) [c]

/-- The elements that satisfy a predicate. -/
def Predicate.filter (predicate : Predicate) (places : List Place) : List Place :=
  match predicate with
  | .always => places
  | .position n => (places.drop (n - 1)).take 1
  | .hasAttribute name => places.filter (·.attributes.contains name)
  | .attributeIs name value => places.filter (·.attributes.get? name == some value)

/-- The elements a step selects directly below a context. -/
def Step.elementsBelow (d : Document) (step : Step) (name : String) (c : Context) : List Place :=
  step.predicate.filter ((c.elements d).filter fun place => name = "*" || place.name = name)

/-- Adds an element unless it is there already. -/
def addPlace (found : List Place) (place : Place) : List Place :=
  if found.any fun other => other.address = place.address then found else found ++ [place]

/-- The texts directly below a place, with their addresses; `index` is the index of the first. -/
def textsFrom (address : Address) : (index : Nat) → List Node → List Match
  | _, [] => []
  | index, .text content :: ns =>
    .text (address ++ [index]) content :: textsFrom address (index + 1) ns
  | index, .element .. :: ns => textsFrom address (index + 1) ns

/-- The texts or attributes a last step selects at a context. -/
def NodeTest.leaves (test : NodeTest) : Context → List Match
  | .document => []
  | .element place =>
    match test with
    | .element _ => []
    | .text => textsFrom place.address 0 place.children
    | .attr name =>
      (place.attributes.entries.filter fun entry => name = "*" || entry.1 = name).map
        fun (key, value) => .attr place.address key value

/-- The contexts a step looks at from one context. -/
def Step.scopes (d : Document) (step : Step) (c : Context) : List Context :=
  if step.descendant then c.selfAndDescendants d else [c]

/-- The elements a step selects from contexts, each once and in the order of discovery. -/
def Step.elements (d : Document) (step : Step) (name : String) (contexts : List Context) :
    List Place :=
  ((contexts.flatMap (step.scopes d)).flatMap (step.elementsBelow d name)).foldl addPlace []

/-- Follows steps from contexts. Only a last step selects texts or attributes. -/
def follow (d : Document) : List Step → List Context → List Match
  | [], contexts => contexts.filterMap fun
    | .document => none
    | .element place => some (.element place)
  | step :: steps, contexts =>
    match step.test with
    | .element name => follow d steps ((step.elements d name contexts).map Context.element)
    | test =>
      (contexts.flatMap (step.scopes d)).flatMap test.leaves ++ follow d steps []

/-- The nodes that steps select in a document; without steps, the root element. -/
def Document.selectSteps (d : Document) (steps : List Step) : List Match :=
  if steps = [] then [.element d.place] else follow d steps [.document]

/-- The nodes that a query selects in a document. -/
def Document.select (d : Document) (query : String) : Except QueryFault (List Match) :=
  (readQuery query).map d.selectSteps

end TagTemplate.Island
