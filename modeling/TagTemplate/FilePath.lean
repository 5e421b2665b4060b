/-!
# File paths

A path is text. It is looked at through its components: the root of an absolute path, a leading
`.`, and then names and `..`. Repeated slashes, a slash at the end and inner `.` make no components.

- `components`: what a path consists of;
- `join`: a path below another, unless it is absolute;
- `relativeTo?`: what is left of a path below a base;
- `parent?`, `extension?`: the path without its last component, and the ending of its name.
-/

namespace TagTemplate.FilePath

/-- A component of a path. -/
inductive Component where
  | root
  /-- A `.` at the start. -/
  | here
  /-- A `..` anywhere. -/
  | up
  | name (name : List Char)
  deriving Repr, DecidableEq

/-- The texts between the slashes of a path. -/
def segments : List Char → List (List Char)
  | [] => [[]]
  | c :: cs =>
    if c = '/' then [] :: segments cs
    else match segments cs with
      | s :: ss => (c :: s) :: ss
      | [] => [[c]]

/-- Segments with a slash between each and the next. -/
def unsegmented (ss : List (List Char)) : List Char := ['/'].intercalate ss

/-- The component a segment makes, unless it is empty or a dot. -/
def ofSegment? (s : List Char) : Option Component :=
  if s = [] ∨ s = ['.'] then none
  else if s = ['.', '.'] then some .up
  else some (.name s)

/-- A segment that makes no component. -/
def isVoid (s : List Char) : Bool := (ofSegment? s).isNone

/-- How a path begins, and its other segments. -/
structure Parts where
  lead : Option Component
  body : List (List Char)
  deriving Repr, DecidableEq

/-- Takes a path apart. -/
def parts (path : String) : Parts :=
  match path.toList with
  | '/' :: cs => ⟨some .root, segments cs⟩
  | cs =>
    match segments cs with
    | ['.'] :: ss => ⟨some .here, ss⟩
    | ss => ⟨none, ss⟩

/-- Puts a path together. -/
def Parts.path (p : Parts) : String :=
  let body := unsegmented p.body
  String.ofList (match p.lead with
    | some .root => '/' :: body
    | some .here => if p.body.isEmpty then ['.'] else '.' :: '/' :: body
    | _ => body)

/-- The components of a path. -/
def Parts.components (p : Parts) : List Component := p.lead.toList ++ p.body.filterMap ofSegment?

/-- The components of a path. -/
def components (path : String) : List Component := (parts path).components

/-- The path starts at the root. -/
def isAbsolute (path : String) : Bool := path.toList.head? == some '/'

/-- A path below another one. An absolute path stays what it is; the empty path adds a slash. -/
def join (base path : String) : String :=
  if isAbsolute path ∨ base = "" then path
  else if base.toList.getLast? = some '/' then base ++ path
  else base ++ "/" ++ path

/-- Segments without the void ones at the start. -/
def trimmedStart (ss : List (List Char)) : List (List Char) := ss.dropWhile isVoid

/-- Segments without the void ones at the end. -/
def trimmedEnd (ss : List (List Char)) : List (List Char) :=
  (ss.reverse.dropWhile isVoid).reverse

/-- Segments behind the first `n` components. -/
def dropComponents : Nat → List (List Char) → List (List Char)
  | 0, ss => ss
  | _ + 1, [] => []
  | n + 1, s :: ss => if isVoid s then dropComponents (n + 1) ss else dropComponents n ss

/-- What follows `base` in a path, if the path's components begin with those of `base`. -/
def relativeTo? (base path : String) : Option String :=
  let b := parts base
  let p := parts path
  if b.components = [] then some { p with body := trimmedEnd p.body }.path
  else if b.components.isPrefixOf p.components then
    let rest := dropComponents (b.body.filterMap ofSegment?).length p.body
    some (Parts.path ⟨none, trimmedEnd (trimmedStart rest)⟩)
  else none

/-- The name of a component that is a name. -/
def Component.name? : Component → Option (List Char)
  | .name n => some n
  | _ => none

/-- The names in a path, without its root and its steps up. -/
def normalNames (path : String) : String :=
  String.ofList (unsegmented ((components path).filterMap Component.name?))

/-- The path without its last component. The root and the empty path have none. -/
def parent? (path : String) : Option String :=
  let p := parts path
  match trimmedEnd p.body, p.lead with
  | [], some .here => some ""
  | [], _ => none
  | body, _ => some { p with body := trimmedEnd body.dropLast }.path

/-- The last component, if it is a name. -/
def fileName? (path : String) : Option (List Char) :=
  (components path).getLast?.bind Component.name?

/-- What follows the last dot of the name; a dot at its start does not count. -/
def extension? (path : String) : Option String :=
  (fileName? path).bind fun name =>
    let (ending, rest) := name.reverse.span fun c => c ≠ '.'
    match rest with
    | '.' :: _ :: _ => some (String.ofList ending.reverse)
    | _ => none

end TagTemplate.FilePath
