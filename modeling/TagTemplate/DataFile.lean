import TagTemplate.Error
import TagTemplate.FileStore
import TagTemplate.Json.Read
import TagTemplate.Toml.Read
import TagTemplate.Value.OfToml

/-!
# Data files

Files that hold a value: plain text, JSON or TOML. The format is given, or it is the ending of the
file's name.
-/

namespace TagTemplate

/-- What a data file holds. -/
inductive DataFormat where
  | text
  | json
  | toml
  deriving Repr, DecidableEq

namespace DataFormat

/-- The format of a name. -/
def ofName? (name : String) : Option DataFormat :=
  if name = "text" ∨ name = "txt" then some text
  else if name = "json" then some json
  else if name = "toml" then some toml
  else none

/-- How deeply the collections of a JSON file may be nested. -/
def deepestJson : Nat := 127

/-- The value of a file's content. -/
def read? (format : DataFormat) (content : String) : Option Value :=
  match format with
  | text => some (.string content)
  | json => (Json.readWithin deepestJson content.toList).bind Value.ofJson?
  | toml => (Toml.read content).bind fun entries => Value.ofToml? (.table entries)

end DataFormat

/-- The name of a format in small letters, as far as ASCII goes. -/
def formatName (name : String) : String := String.ofList (Number.asciiLower name.toList)

/-- The format that the name of a file says. -/
def formatOfPath (path : String) : String := formatName ((FilePath.extension? path).getD "")

/-- The value that a data file holds. -/
def readDataFile (files : FileStore) (path format : String) : Except Error Value :=
  match files.readText path with
  | .error _ => .error (.dataFile path)
  | .ok content =>
    match DataFormat.ofName? format with
    | none => .error (.unsupportedFormat format)
    | some known =>
      match known.read? content with
      | some value => .ok value
      | none => .error (.dataFile path)

end TagTemplate
