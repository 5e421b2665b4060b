import TagTemplate.Cache.Entry
import TagTemplate.FileStore
import TagTemplate.Template.Read

/-!
# The template cache

A template that was read once is kept as a file under the cache root, at the path its source has
under the templates root. The file is used as long as it is not older than the source and was built
the same way; anything that cannot be read or written is passed over.

- `Cache.path`: where a template is kept;
- `loadTemplate`: a template from the cache or from its source.
-/

namespace TagTemplate

/-- Where cached templates are kept and what their paths are relative to. -/
structure Cache where
  cacheRoot : String
  templatesRoot : String
  deriving Repr, DecidableEq

namespace Cache

/-- The version of the format of cache files. -/
def version : Nat := 1

/-- What the name of a cache file ends in. -/
def fileSuffix : String := ".tlc"

/-- The directory of the cache files under the cache root. -/
def directory : String := "trees"

/-- The cache file of a source: its path under the templates root, or all its names if it is not
under it. -/
def path (c : Cache) (source : String) : String :=
  let relative := (FilePath.relativeTo? c.templatesRoot source).getD (FilePath.normalNames source)
  FilePath.join (FilePath.join c.cacheRoot directory) relative ++ fileSuffix

/-- What stands in place of the suffix while a cache file is written: a number of the process and
the time in nanoseconds, with as many digits as they take. -/
def writingSuffix : String := ".tmp-0000-0000000000000000000"

/-- A file like the one that a cache file is written to before it takes its place. -/
def writingPath (c : Cache) (source : String) : String :=
  let path := c.path source
  String.ofList ((Text.dropEnding? fileSuffix.toList path.toList).getD path.toList) ++ writingSuffix

/-- The cache file was written before the source was. A source that is gone makes nothing stale. -/
def isStale (files : FileStore) (source : String) (cached : Nat) : Bool :=
  (files.modified? source).any fun changed => cached < changed

/-- The template kept for a source. -/
def load? (c : Cache) (files : FileStore) (source : String) (fold : Bool) : Option Template :=
  (files.modified? (c.path source)).bind fun cached =>
    if isStale files source cached then none
    else
      ((files.readBytes (c.path source)).toOption.bind Entry.read?).bind fun entry =>
        if entry.version = version ∧ entry.folded = fold then some entry.template else none

/-- Keeps the template of a source. What cannot be written, under its own name and that of the file
before, is not kept. -/
def save (c : Cache) (files : FileStore) (source : String) (template : Template) (fold : Bool) :
    FileStore :=
  match (FilePath.parent? (c.path source)).bind files.createDirectories? with
  | none => files
  | some files =>
    let entry : Entry := ⟨version, fold, template⟩
    match files.resolve (c.writingPath source) with
    | .error _ => files
    | .ok _ => (files.writeFile? (c.path source) entry.write.toUTF8).getD files

end Cache

/-- A template and whether it came from the cache. -/
structure Loaded where
  template : Template
  fromCache : Bool
  deriving Repr, DecidableEq

/-- The text of a file that a template names. -/
def FileStore.readNamed (files : FileStore) (path : String) : Except Error String :=
  match files.readText path with
  | .ok text => .ok text
  | .error .notFound => .error (.fileNotFound path)
  | .error .unusable => .error .io

/-- Reads a template from its source. -/
def readTemplate (files : FileStore) (source : String) (fold : Bool) : Except Error Template :=
  (files.readNamed source).bind fun text => Template.read text source fold

/-- A template from the cache or from its source; one read from its source is kept. -/
def loadTemplate (cache : Option Cache) (files : FileStore) (source : String) (fold : Bool) :
    Except Error Loaded × FileStore :=
  match cache.bind fun c => c.load? files source fold with
  | some template => (.ok ⟨template, true⟩, files)
  | none =>
    match readTemplate files source fold with
    | .error e => (.error e, files)
    | .ok template =>
      (.ok ⟨template, false⟩,
        match cache with
        | some c => c.save files source template fold
        | none => files)

end TagTemplate
