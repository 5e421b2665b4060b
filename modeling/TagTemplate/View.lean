import TagTemplate.Render.Document

/-!
# Views

A view holds one template, the data it is rendered with and the collaborators it is rendered by.
The template is built when it is first needed and then kept until another one is loaded.
-/

namespace TagTemplate

/-- Where a template comes from. -/
inductive TemplateSource where
  | file (path : String)
  | text (source : String)
  deriving Repr, DecidableEq

/-- A template with its data and collaborators. -/
structure View where
  config : Config
  functions : Registry
  /-- The factories asked for feeds, the latest first. -/
  feeds : List FeedFactory
  translator : Option Translator
  globals : Scope
  source : Option TemplateSource
  template : Option Template
  /-- The template was taken from the cache. -/
  fromCache : Bool
  /-- The cache of the last template that was built from a file. -/
  cache : Option Cache

namespace View

/-- A view without template, data and collaborators. -/
def ofConfig (config : Config) : View :=
  ⟨config, .empty, [], none, .empty, none, none, false, none⟩

/-- The path that errors name for a template that is no file. -/
def textSource : String := "<string>"

/-- Takes a template from a file. -/
def loadFile (v : View) (files : FileStore) (path : String) : View :=
  { v with source := some (.file (files.absolute path)), template := none, fromCache := false }

/-- Takes a text as the template. -/
def loadText (v : View) (source : String) : View :=
  { v with source := some (.text source), template := none, fromCache := false }

/-- Sets a name of the data. -/
def mount (v : View) (name : String) (value : Value) : View :=
  { v with globals := v.globals.mount name value }

/-- Adds functions; they hide those added before. -/
def addFunctions (v : View) (library : Library) : View :=
  { v with functions := v.functions.add library }

/-- Adds feeds; they hide those added before. -/
def addFeeds (v : View) (factory : FeedFactory) : View := { v with feeds := factory :: v.feeds }

/-- All data in one map. -/
def data (v : View) : OrderedMap Value := v.globals.merged

/-- The cache for templates of the directory that a file is in, or of the templates root. -/
def cacheFor (v : View) (path : String) : Option Cache :=
  v.config.cacheRoot.map fun root =>
    ⟨root, (v.config.templatesRoot.or (FilePath.parent? path)).getD ""⟩

/-- Builds the template, unless it is there already. -/
def build (v : View) (files : FileStore) : Except Error Template × View × FileStore :=
  match v.template, v.source with
  | some template, _ => (.ok template, v, files)
  | none, none => (.error .noTemplate, v, files)
  | none, some (.text source) =>
    match Template.read source textSource v.config.fold with
    | .error e => (.error e, v, files)
    | .ok template =>
      (.ok template, { v with template := some template, fromCache := false }, files)
  | none, some (.file path) =>
    let v := { v with cache := v.cacheFor path }
    let (loaded, files) := loadTemplate v.cache files path v.config.fold
    match loaded with
    | .error e => (.error e, v, files)
    | .ok ⟨template, fromCache⟩ =>
      (.ok template, { v with template := some template, fromCache }, files)

/-- What the view's templates are rendered with. -/
def environment (v : View) : Environment :=
  ⟨v.config, v.functions, v.feeds, v.translator, v.cache⟩

/-- Renders the template. What it mounts itself lasts for this rendering only. -/
def render (v : View) (files : FileStore) : Except Error String × View × FileStore :=
  let (built, v, files) := v.build files
  match built with
  | .error e => (.error e, v, files)
  | .ok template =>
    let (result, files) := renderDocument v.environment v.globals files template
    (result, v, files)

end View

end TagTemplate
