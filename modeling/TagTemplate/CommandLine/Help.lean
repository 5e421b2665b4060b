import TagTemplate.CommandLine.Arguments

/-!
# Help texts

A short and a long text for the program and each of its commands. The short one has a line for every
switch; the long one describes each on a line of its own.
-/

namespace TagTemplate.CommandLine

/-- The name of the program. -/
def programName : String := "tagloom"

/-- What the program answers when asked for its version. -/
def versionText : String := "tagloom_cli 0.3.0\n"

/-- What a switch does. -/
def Switch.description (long : Bool) : Switch → String
  | .path =>
    "Project root. `tagloom.toml` is discovered here and relative paths are resolved against it"
  | .verbose => "Enable verbose output"
  | .noColor => "Disable colored output"
  | .data => "Mount a JSON, TOML or text file under a name, as `NAME=PATH`. May be repeated"
  | .output => "Write the output to this file instead of stdout"
  | .noFold => "Build the tree without folding inert elements into text"
  | .help =>
    if long then "Print help (see a summary with '-h')" else "Print help (see more with '--help')"
  | .version => "Print version"

/-- What a command does, in a line. -/
def Level.summary : Level → String
  | .top => "Render XML templates with tagloom directives against structured data."
  | .render => "Render a template and print the result"
  | .check => "Build a template without rendering it"

/-- What the command that prints help texts does. -/
def helpSummary : String := "Print this message or the help of the given subcommand(s)"

/-- What a command does, at length. -/
def Level.about : Level → String
  | .top =>
    "tagloom renders well-formed XML templates annotated with `tl:` directives (loops, conditions, "
      ++ "macros, slots and plugs, includes) against data from JSON or TOML files.\n\n"
      ++ "Quick start:\n  tagloom render page.xml --data site=site.json\n  tagloom check page.xml"
  | .render =>
    "Render a template and print the result.\n\n"
      ++ "Data files from the `[data]` table of `tagloom.toml` are mounted first, then every "
      ++ "`--data` file. A later mount of the same name replaces the earlier one."
  | .check =>
    "Build a template without rendering it.\n\n"
      ++ "Reports structural errors and missing required directive attributes. Exits with a "
      ++ "non-zero status code when the template cannot be built."

/-- How a command is used. -/
def Level.usage : Level → String
  | .top => s!"Usage: {programName} [OPTIONS] [COMMAND]"
  | level => s!"Usage: {programName} {level.name} [OPTIONS] <FILE>"

/-- Text with blanks behind it up to a width. -/
def padRight (width : Nat) (text : String) : String :=
  text ++ String.ofList (List.replicate (width - text.length) ' ')

/-- How a switch is written. -/
def Switch.form (switch : Switch) : String :=
  let letter := match switch.letter? with
    | some letter => s!"-{letter}, "
    | none => "    "
  let value := (switch.valueName?.map fun name => s!" <{name}>").getD ""
  s!"{letter}--{switch.name}{value}"

/-- Descriptions of things, each beside what it describes or below it. -/
def described (long : Bool) (rows : List (String × String)) : String :=
  if long then "\n\n".intercalate (rows.map fun (form, text) => s!"  {form}\n          {text}")
  else
    let width := (rows.map fun row => row.1.length).foldl max 0
    "\n".intercalate (rows.map fun (form, text) => s!"  {padRight width form}  {text}")

/-- The part of a help text between its usage and its switches. -/
def Level.subjects (long : Bool) : Level → String
  | .top =>
    let commands := Level.commands.map fun level => (level.name, level.summary)
    "Commands:\n" ++ described false (commands ++ [("help", helpSummary)])
  | _ => "Arguments:\n" ++ described long [("<FILE>", "The template file")]

/-- The help text of a command. -/
def Level.help (level : Level) (long : Bool) : String :=
  let about := if long then level.about else level.summary
  let switches := level.switches.map fun switch => (switch.form, switch.description long)
  "\n\n".intercalate
    [about, level.usage, level.subjects long, "Options:\n" ++ described long switches] ++ "\n"

/-- The help text of the command that prints help texts. -/
def helpOnHelp : String :=
  let commands := ("[COMMAND]...", "Print help for the subcommand(s)")
  "\n\n".intercalate
    [helpSummary, s!"Usage: {programName} help [COMMAND]...",
      "Arguments:\n" ++ described false [commands]] ++ "\n"

end TagTemplate.CommandLine
