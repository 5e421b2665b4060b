import TagTemplate.FilePath
import TagTemplate.OrderedMap
import TagTemplate.Text.Search

/-!
# The files a view works on

A `FileStore` holds files and directories by their absolute paths, each with the time of its last
change. Writing a file gives it a time later than all before (`clock`). Relative paths start at the
working directory.

- `resolve`: the entry a path leads to, every step of it through a directory;
- `readText`, `modified?`, `isFile`: what can be asked;
- `createDirectories?`, `writeFile?`: what can be changed.
-/

namespace TagTemplate

/-- Why a path leads to nothing. -/
inductive AccessFailure where
  | notFound
  /-- A directory in place of a file, a file in place of a directory, or a path that cannot be. -/
  | unusable
  deriving Repr, DecidableEq

/-- A file or a directory with the time of its last change. -/
inductive Entry where
  | file (content : ByteArray) (modified : Nat)
  | directory (modified : Nat)

/-- Files and directories. -/
structure FileStore where
  workingDirectory : String
  entries : OrderedMap Entry
  clock : Nat

namespace FileStore

/-- Nothing but the root and a clock. -/
def empty (workingDirectory : String) (clock : Nat) : FileStore := ⟨workingDirectory, .empty, clock⟩

/-- The key of an entry: the names from the root on, each after a slash. -/
def key (names : List (List Char)) : String :=
  String.ofList (names.flatMap fun name => '/' :: name)

/-- The entry at the names from the root on; the root itself is a directory. -/
def entry? (s : FileStore) (names : List (List Char)) : Option Entry :=
  if names = [] then some (.directory 0) else s.entries.get? (key names)

/-- Sets the entry at the names from the root on. -/
def setEntry (s : FileStore) (names : List (List Char)) (entry : Entry) : FileStore :=
  { s with entries := s.entries.insert (key names) entry }

/-- The path from the root. -/
def absolute (s : FileStore) (path : String) : String :=
  if FilePath.isAbsolute path then path else FilePath.join s.workingDirectory path

/-- The longest name in bytes. -/
def longestName : Nat := 255

/-- The name is too long for a file or a directory. -/
def isOverlong (name : List Char) : Bool := longestName < Text.byteLength name

/-- The longest path in bytes. -/
def longestPath : Nat := 4095

/-- The path can be one of a file at all. -/
def isPossible (path : String) : Bool :=
  !path.toList.contains '\x00' && Text.byteLength path.toList ≤ longestPath

/-- There must be a directory at the names. -/
def requireDirectory (s : FileStore) (names : List (List Char)) : Except AccessFailure Unit :=
  match s.entry? names with
  | some (.directory _) => .ok ()
  | some (.file ..) => .error .unusable
  | none => .error .notFound

/-- Goes along the segments of a path from a place; every segment but the last must lead to a
directory, and so must whatever a void segment or a step up stands in. A name that is too long is
only found out in a directory that is there. -/
def walk (s : FileStore) : List (List Char) → List (List Char) →
    Except AccessFailure (List (List Char))
  | names, [] => .ok names
  | names, segment :: rest =>
    (s.requireDirectory names).bind fun _ =>
      match FilePath.ofSegment? segment with
      | some .up => s.walk names.dropLast rest
      | some _ =>
        if isOverlong segment then .error .unusable else s.walk (names ++ [segment]) rest
      | none => s.walk names rest

/-- The names from the root to where a path leads; the last one may be missing. -/
def resolve (s : FileStore) (path : String) : Except AccessFailure (List (List Char)) :=
  if path = "" then .error .notFound
  else if isPossible path then s.walk [] (FilePath.segments (s.absolute path).toList)
  else .error .unusable

/-- The entry a path leads to. -/
def find (s : FileStore) (path : String) : Except AccessFailure Entry :=
  (s.resolve path).bind fun names =>
    match s.entry? names with
    | some entry => .ok entry
    | none => .error .notFound

/-- The bytes of a file. -/
def readBytes (s : FileStore) (path : String) : Except AccessFailure ByteArray :=
  (s.find path).bind fun
    | .file content _ => .ok content
    | .directory _ => .error .unusable

/-- The text of a file; other bytes than text cannot be read. -/
def readText (s : FileStore) (path : String) : Except AccessFailure String :=
  (s.readBytes path).bind fun content =>
    match String.fromUTF8? content with
    | some text => .ok text
    | none => .error .unusable

/-- The time of the last change. -/
def modified? (s : FileStore) (path : String) : Option Nat :=
  match s.find path with
  | .ok (.file _ time) => some time
  | .ok (.directory time) => some time
  | .error _ => none

/-- The path leads to a file. -/
def isFile (s : FileStore) (path : String) : Bool :=
  match s.find path with
  | .ok (.file ..) => true
  | _ => false

/-- The store at a later time. -/
def tick (s : FileStore) : FileStore := { s with clock := s.clock + 1 }

/-- Goes along the segments of a path and makes the directories that are missing. -/
def makeAlong : FileStore → List (List Char) → List (List Char) → Option FileStore
  | s, _, [] => some s
  | s, names, segment :: rest =>
    match FilePath.ofSegment? segment with
    | some .up => s.makeAlong names.dropLast rest
    | none => s.makeAlong names rest
    | some _ =>
      let here := names ++ [segment]
      match s.entry? here with
      | some (.directory _) => s.makeAlong here rest
      | some (.file ..) => none
      | none =>
        if isOverlong segment then none
        else (s.setEntry here (.directory s.clock)).makeAlong here rest

/-- Makes a directory and those around it, unless a file is in the way. -/
def createDirectories? (s : FileStore) (path : String) : Option FileStore :=
  if path = "" then some s
  else if isPossible path then s.makeAlong [] (FilePath.segments (s.absolute path).toList)
  else none

/-- Writes a file into a directory that is there, at the given time. -/
def putFile? (s : FileStore) (path : String) (content : ByteArray) (time : Nat) :
    Option FileStore :=
  match s.resolve path with
  | .error _ => none
  | .ok names =>
    match s.entry? names with
    | some (.directory _) => none
    | _ => some (s.setEntry names (.file content time))

/-- Writes a file now. -/
def writeFile? (s : FileStore) (path : String) (content : ByteArray) : Option FileStore :=
  s.tick.putFile? path content s.tick.clock

/-- The key is that of the entry or of one inside of it. -/
def isInside (entry key : String) : Bool := key = entry || Text.beginsWith (entry ++ "/") key

/-- Takes an entry away, with all that is in it. -/
def remove (s : FileStore) (path : String) : FileStore :=
  match s.resolve path with
  | .ok names =>
    { s with entries := ⟨s.entries.entries.filter fun entry => !isInside (key names) entry.1⟩ }
  | .error _ => s

/-- The paths of all files. -/
def files (s : FileStore) : List String :=
  s.entries.entries.filterMap fun (path, entry) =>
    match entry with
    | .file .. => some path
    | .directory _ => none

end FileStore

end TagTemplate
