import TagTemplate.Value.Basic

/-!
# Scopes

The layers that names are looked up in. The universe is always there and always a map; macro calls
and iterations put layers on top of it and take them off again.
-/

namespace TagTemplate

/-- The place of the innermost iteration. -/
structure Iteration where
  /-- Counted from one. -/
  position : Nat
  count : Nat
  /-- The name of a map's entry, or the index from zero. -/
  key : Value
  deriving Inhabited

/-- The first of its loop. -/
def Iteration.isFirst (it : Iteration) : Bool := it.position == 1

/-- The last of its loop. -/
def Iteration.isLast (it : Iteration) : Bool := it.position == it.count

/-- A stack of layers over the universe. -/
structure Scope where
  base : OrderedMap Value
  /-- The layers above the universe, innermost first. -/
  layers : List Value
  deriving Inhabited

namespace Scope

/-- The scope with nothing above its universe. -/
def ofUniverse (entries : OrderedMap Value) : Scope := ⟨entries, []⟩

/-- The empty scope. -/
def empty : Scope := ofUniverse .empty

/-- Puts a layer on top. -/
def push (s : Scope) (layer : Value) : Scope := { s with layers := layer :: s.layers }

/-- Takes the top layer off; the universe stays. -/
def pop (s : Scope) : Option Value × Scope :=
  match s.layers with
  | [] => (none, s)
  | layer :: layers => (some layer, { s with layers })

/-- The number of layers, the universe included. -/
def depth (s : Scope) : Nat := s.layers.length + 1

/-- Sets a name of the universe. -/
def mount (s : Scope) (name : String) (value : Value) : Scope :=
  { s with base := s.base.insert name value }

/-- All layers, innermost first. -/
def allLayers (s : Scope) : List Value := s.layers ++ [.map s.base]

/-- The innermost layer. -/
def top (s : Scope) : Value := s.layers.headD (.map s.base)

/-- The layer below the innermost one. -/
def parent? (s : Scope) : Option Value := s.allLayers[1]?

/-- Looks a name up from the innermost layer outwards. `/`, `.` and `..` name the universe, the
innermost layer and the one below it. -/
def lookup? (s : Scope) (name : String) : Option Value :=
  if name = "/" then some (.map s.base)
  else if name = "." then some s.top
  else if name = ".." then s.parent?
  else s.allLayers.findSome? (·.layerMember? name)

/-- The entries a layer contributes when layers are merged: those of a map. -/
def mergeable : Value → List (String × Value)
  | .map m => m.entries
  | _ => []

/-- All map layers in one map, inner values winning over outer ones. -/
def merged (s : Scope) : OrderedMap Value :=
  s.allLayers.reverse.foldl (fun m layer => m.insertAll (mergeable layer)) .empty

end Scope

end TagTemplate
