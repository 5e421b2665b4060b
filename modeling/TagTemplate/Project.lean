import TagTemplate.DataFile
import TagTemplate.View

/-!
# Projects

A project is a directory with a settings file: what a view is set up with, and the data files that
are mounted in it.

- `Project.find?`: the settings file of a directory;
- `Project.read?`: what it says;
- `View.ofProject`: a view set up by it.
-/

namespace TagTemplate

/-- A data file with its format. -/
structure DataSource where
  path : String
  format : String
  deriving Repr, DecidableEq

/-- What a settings file says. Paths are relative to the project. -/
structure Project where
  templatesRoot : Option String
  cacheRoot : Option String
  language : Option String
  fold : Option Bool
  maxIncludeDepth : Option Nat
  /-- The data files by the names they are mounted under. -/
  data : List (String × DataSource)
  deriving Repr, DecidableEq

namespace Project

/-- Where a settings file is looked for, in this order. -/
def candidates : List String := ["tagloom.toml", ".tagloom.toml", ".config/tagloom.toml"]

/-- The settings file of a directory. -/
def find? (files : FileStore) (root : String) : Option String :=
  (candidates.map (FilePath.join root)).find? files.isFile

/-! ### Fields

A field that is missing is none; one of another kind makes the whole file unreadable. -/

/-- An optional field. -/
def field? {α : Type} (f : Toml → Option α) (name : String) (entries : List (String × Toml)) :
    Option (Option α) :=
  match entries.lookup name with
  | none => some none
  | some v => (f v).map some

/-- A text. -/
def toText? : Toml → Option String
  | .string text => some text
  | _ => none

/-- A truth value. -/
def toBool? : Toml → Option Bool
  | .bool b => some b
  | _ => none

/-- A count of at most 64 bits. -/
def toCount? : Toml → Option Nat
  | .integer n => if 0 ≤ n ∧ n < Nat.pow 2 64 then some n.toNat else none
  | _ => none

/-- The names of the fields. -/
def fieldNames : List String :=
  ["templates_root", "cache_root", "language", "fold", "max_include_depth", "data"]

/-- Fields of other names count for nothing, but their integers must have at most 128 bits. -/
def areOthersReadable (entries : List (String × Toml)) : Bool :=
  entries.all fun entry =>
    fieldNames.contains entry.1 || entry.2.numbersWithin (-Nat.pow 2 127) (Nat.pow 2 128)

/-- A data file of a path and a named format. -/
def typedSource? (path format : Toml) : Option DataSource :=
  (toText? path).bind fun path =>
    (toText? format).map fun format =>
      ⟨path, formatName (String.ofList (Text.trim format.toList))⟩

/-- A data file of a path whose ending says the format. -/
def plainSource (path : String) : DataSource := ⟨path, formatOfPath path⟩

/-- A data file: a path, or a path and a format. Whatever else is said of it counts for nothing, but
its integers must have at most 64 bits. -/
def toSource? : Toml → Option DataSource
  | .string path => some (plainSource path)
  | .array [path, format] => typedSource? path format
  | .table entries =>
    match entries.lookup "path", entries.lookup "format" with
    | some path, some format =>
      if Toml.entryNumbersWithin (-Nat.pow 2 63) (Nat.pow 2 64) entries then
        typedSource? path format
      else none
    | _, _ => none
  | _ => none

/-- The data files, in the order of their names. A date or time is looked at as a table. -/
def toSources? : Toml → Option (List (String × DataSource))
  | .table entries =>
    (entries.mapM fun (entry : String × Toml) =>
      (toSource? entry.2).map fun source => (entry.1, source)).map fun sources =>
        (OrderedMap.sorted ⟨sources⟩).entries
  | .datetime d => some [(Toml.datetimeName, plainSource d.display)]
  | _ => none

/-- What the text of a settings file says. -/
def ofText? (text : String) : Option Project := do
  let entries ← Toml.read text
  let templatesRoot ← field? toText? "templates_root" entries
  let cacheRoot ← field? toText? "cache_root" entries
  let language ← field? toText? "language" entries
  let fold ← field? toBool? "fold" entries
  let maxIncludeDepth ← field? toCount? "max_include_depth" entries
  let data ← field? toSources? "data" entries
  guard (areOthersReadable entries)
  some ⟨templatesRoot, cacheRoot, language, fold, maxIncludeDepth, data.getD []⟩

/-- What the settings file of a directory says; none if there is no such file. -/
def read? (files : FileStore) (root : String) : Except Error (Option Project) :=
  match find? files root with
  | none => .ok none
  | some path =>
    match files.readText path with
    | .error _ => .error .io
    | .ok text =>
      match ofText? text with
      | some project => .ok (some project)
      | none => .error .configParse

/-- The settings of a project in a directory. -/
def config (p : Project) (root : String) : Config :=
  let standard := Config.standard
  { templatesRoot := p.templatesRoot.map (FilePath.join root)
    cacheRoot := p.cacheRoot.map (FilePath.join root)
    language := p.language
    fold := p.fold.getD standard.fold
    maxIncludeDepth := p.maxIncludeDepth.getD standard.maxIncludeDepth }

/-- The values of the data files of a project in a directory. -/
def readData (p : Project) (files : FileStore) (root : String) :
    Except Error (List (String × Value)) :=
  p.data.mapM fun (name, source) =>
    (readDataFile files (FilePath.join root source.path) source.format).map fun v => (name, v)

end Project

/-- A view set up by the settings file of a directory, with the data files mounted. Without such a
file the standard settings apply. -/
def View.ofProject (files : FileStore) (root : String) : Except Error View := do
  match ← Project.read? files root with
  | none => .ok (View.ofConfig .standard)
  | some project =>
    let data ← project.readData files root
    .ok (data.foldl (fun v (name, value) => v.mount name value)
      (View.ofConfig (project.config root)))

end TagTemplate
