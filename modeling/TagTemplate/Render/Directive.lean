import TagTemplate.Render.Element

/-!
# Rendering directives
-/

namespace TagTemplate.Rendering

/-- An attribute that is there because templates without it are not built. -/
def required (node : Node) (name : String) : String := (node.attribute? name).getD ""

/-- The path of a file that a template names: relative to the template's own directory, else to the
templates root, else to the working directory. -/
def resolveFile (env : Environment) (template : Template) (files : FileStore) (file : String) :
    String :=
  let own := (FilePath.parent? template.sourcePath).filter (· ≠ "")
  let base := (own.or env.config.templatesRoot).getD files.workingDirectory
  if FilePath.isAbsolute file then file else FilePath.join base file

/-- The path of the file that a directive names. -/
def namedFile (env : Environment) (template : Template) (node : Node) : Rendering String := do
  pure (resolveFile env template (← get).files (required node "file"))

/-- Renders the root of a template. -/
def renderTemplate (self : NodeRenderer) (template : Template) : Rendering String :=
  match template.tree.root with
  | some (.node id) => self template id .normal
  | some (.text content) => pure content
  | none => pure ""

/-- The value of an `attr` directive: none if its flag holds, else the text of its `value` or the
words of its children. -/
def attributeValue (env : Environment) (self : NodeRenderer) (template : Template) (node : Node) :
    Rendering (Option String) := do
  if ← evaluateTruth env (node.attribute? "flag") then pure none
  else match node.attribute? "value" with
  | some expression => some <$> evaluateText env expression
  | none =>
    let content ← renderChildren self template node.children
    pure (some (String.ofList ([' '].intercalate (Text.words content.toList))))

/-- Makes an attribute for the element around. -/
def renderAttr (env : Environment) (self : NodeRenderer) (template : Template) (node : Node) :
    Rendering String := do
  let value ← attributeValue env self template node
  setAttribute (required node "name") value
  pure ""

/-- Writes a file as it is. -/
def renderCData (env : Environment) (template : Template) (node : Node) : Rendering String := do
  let file ← namedFile env template node
  ExceptT.mk (pure ((← get).files.readNamed file))

/-- Notes the file of a dictionary. -/
def renderDictionary (env : Environment) (template : Template) (node : Node) :
    Rendering String := do
  let file ← namedFile env template node
  modify fun s => { s with dictionaries := s.dictionaries.insert (required node "name") file }
  pure ""

/-- The parameters of a feed: the attributes that do not steer the directive itself. -/
def feedParams (env : Environment) (node : Node) : Rendering (OrderedMap Value) :=
  let named := node.attributes.entries.filter fun entry => entry.1 ≠ "class" ∧ entry.1 ≠ "target"
  named.foldlM (fun (params : OrderedMap Value) (name, expression) => do
    let value ← evaluate env expression
    pure (params.insert name value)) .empty

/-- Runs a feed and mounts its result under the target, or under the name of its class. -/
def renderFeed (env : Environment) (node : Node) : Rendering String := do
  let feed := required node "class"
  let params ← feedParams env node
  match env.feeds.findSome? (· feed) with
  | none => throw (.feedNotFound feed)
  | some run =>
    let value ← ExceptT.mk (pure (run params))
    mount ((node.attribute? "target").getD feed) value
    pure ""

/-- A template from the cache or from its source. -/
def load (env : Environment) (file : String) : Rendering Template :=
  ExceptT.mk fun s =>
    let (loaded, files) := loadTemplate env.cache s.files file env.config.fold
    (loaded.map Loaded.template, { s with files })

/-- Renders another template in place, one level deeper. -/
def renderEmbed (env : Environment) (self : NodeRenderer) (template : Template) (node : Node) :
    Rendering String := do
  let file ← namedFile env template node
  if env.config.maxIncludeDepth ≤ (← get).includeDepth then
    throw (.includeDepth file env.config.maxIncludeDepth)
  else
    let included ← load env file
    withInclude (renderTemplate self included)

/-- Mounts the value of the `value` attribute, or the rendered children. -/
def renderMount (env : Environment) (self : NodeRenderer) (template : Template) (node : Node) :
    Rendering String := do
  let value ← match node.attribute? "value" with
    | some expression => evaluate env expression
    | none => Value.string <$> renderChildren self template node.children
  mount (required node "target") value
  pure ""

/-- Asks the translator for the key, or for the trimmed content; the content stands in for what it
does not know. -/
def renderTrans (env : Environment) (self : NodeRenderer) (template : Template) (node : Node) :
    Rendering String := do
  let content ← renderChildren self template node.children
  match env.translator with
  | none => pure content
  | some translate =>
    let key ← match node.attribute? "key" with
      | some key => interpolate env key
      | none => pure (String.ofList (Text.trim content.toList))
    let source := (node.attribute? "source").or template.transSource
    let s ← get
    let request : TranslationRequest :=
      ⟨env.config.language, source, source.bind s.dictionaries.get?, key⟩
    pure ((translate request).getD content)

/-- Renders a directive. -/
def renderDirective (env : Environment) (self : NodeRenderer) (template : Template) (node : Node) :
    Directive → Rendering String
  | .attr => renderAttr env self template node
  | .cdata => renderCData env template node
  | .dictionary => renderDictionary env template node
  | .feed => renderFeed env node
  | .embed => renderEmbed env self template node
  | .mount => renderMount env self template node
  | .param => pure ""
  | .trans => renderTrans env self template node
  | .val => evaluateText env (required node "value")

end TagTemplate.Rendering
