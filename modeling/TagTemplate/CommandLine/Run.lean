import TagTemplate.CommandLine.Help
import TagTemplate.Project

/-!
# Running commands

A command works on files and ends with an exit code, a text for the terminal and the files as it
leaves them.
-/

namespace TagTemplate.CommandLine

/-- How a command ends. -/
structure Outcome where
  code : Nat
  /-- What is printed. -/
  output : String
  /-- The error that stopped the command. -/
  error : Option Error
  files : FileStore

/-- The command did what it was to do. -/
def Outcome.done (output : String) (files : FileStore) : Outcome := ⟨0, output, none, files⟩

/-- The exit code for an error. A computation that is given up has a code of its own. -/
def exitCode : Error → Nat
  | .fault _ => 101
  | _ => 2

/-- The command was stopped by an error. -/
def Outcome.stopped (e : Error) (files : FileStore) : Outcome := ⟨exitCode e, "", some e, files⟩

/-- The arguments cannot be understood. -/
def Outcome.misused (files : FileStore) : Outcome := ⟨2, "", none, files⟩

/-- A view set up by the project, for a template file of it. -/
def openView (files : FileStore) (root : String) (noFold : Bool) : Except Error View :=
  (View.ofProject files root).map fun v =>
    if noFold then { v with config := { v.config with fold := false } } else v

/-- Mounts the data files of the command line. -/
def mountData (files : FileStore) (root : String) (v : View) (data : List DataArgument) :
    Except Error View :=
  data.foldlM (fun (v : View) argument =>
    let path := FilePath.join root argument.path
    (readDataFile files path (formatOfPath path)).map fun value => v.mount argument.name value) v

/-- Writes the output to a file, with the directories around it. -/
def writeOutput (files : FileStore) (path output : String) : Outcome :=
  let made := match FilePath.parent? path with
    | some parent => files.createDirectories? parent
    | none => some files
  match made with
  | none => .stopped .io files
  | some files =>
    match files.writeFile? path output.toUTF8 with
    | none => .stopped .io files
    | some files => .done s!"wrote {path}\n" files

/-- Renders a template and prints or writes the output. -/
def runRender (files : FileStore) (root : String) (noFold : Bool) (file : String)
    (data : List DataArgument) (output : Option String) : Outcome :=
  match (openView files root noFold).bind fun v => mountData files root v data with
  | .error e => .stopped e files
  | .ok v =>
    let v := v.loadFile files (FilePath.join root file)
    match v.render files with
    | (.error e, _, files) => .stopped e files
    | (.ok text, _, files) =>
      match output with
      | some path => writeOutput files (FilePath.join root path) text
      | none => .done (text ++ "\n") files

/-- Builds a template and prints what it found. -/
def runCheck (files : FileStore) (root : String) (noFold : Bool) (file : String) : Outcome :=
  match openView files root noFold with
  | .error e => .stopped e files
  | .ok v =>
    let v := v.loadFile files (FilePath.join root file)
    match v.build files with
    | (.error e, _, files) => .stopped e files
    | (.ok template, v, files) =>
      let count := template.tree.nodes.length
      let cached := if v.fromCache then ", from cache" else ""
      .done s!"ok: {file} ({count} node(s), prefix `{template.nsPrefix}`{cached})\n" files

/-- The cache that an invocation uses. -/
def cacheOf? (files : FileStore) (invocation : Invocation) : Option Cache :=
  let root := invocation.root.getD files.workingDirectory
  let file := match invocation.command with
    | some (.render file _ _) => file
    | some (.check file) => file
    | none => ""
  match Project.read? files root with
  | .ok (some project) =>
    (View.ofConfig (project.config root)).cacheFor (files.absolute (FilePath.join root file))
  | _ => none

/-- Carries out what a list of arguments asks for. -/
def run (files : FileStore) (arguments : List String) : Outcome :=
  match Request.read? arguments with
  | none => .misused files
  | some .version => .done versionText files
  | some (.help level long) => .done (level.help long) files
  | some .helpOnHelp => .done helpOnHelp files
  | some (.run invocation) =>
    let root := invocation.root.getD files.workingDirectory
    match invocation.command with
    | none => ⟨1, "", none, files⟩
    | some (.render file data output) => runRender files root invocation.noFold file data output
    | some (.check file) => runCheck files root invocation.noFold file

end TagTemplate.CommandLine
