import TagTemplate.Text.Blank
import TagTemplate.Text.Search

/-!
# Command line arguments

The program has switches of its own, then a command with further switches and a template file. The
switches of the program may also follow the command. A switch is given by its long name or by one
letter; letters may be joined, and a value may be joined to its switch.

- `Request.read?`: what a list of arguments asks for, none if it cannot be understood.
-/

namespace TagTemplate.CommandLine

open TagTemplate.Text

/-- Where an argument stands: before any command, or behind one. -/
inductive Level where
  | top
  | render
  | check
  deriving Repr, DecidableEq

/-- What a switch is for. -/
inductive Switch where
  | path
  | verbose
  | noColor
  | data
  | output
  | noFold
  | help
  | version
  deriving Repr, DecidableEq

namespace Switch

/-- The long name. -/
def name : Switch → String
  | path => "path"
  | verbose => "verbose"
  | noColor => "no-color"
  | data => "data"
  | output => "output"
  | noFold => "no-fold"
  | help => "help"
  | version => "version"

/-- The letter, if there is one. -/
def letter? : Switch → Option Char
  | path => some 'p'
  | verbose => some 'v'
  | output => some 'o'
  | help => some 'h'
  | version => some 'V'
  | _ => none

/-- What the value of the switch is called, if it has one. -/
def valueName? : Switch → Option String
  | path => some "PATH"
  | data => some "NAME=PATH"
  | output => some "OUTPUT"
  | _ => none

end Switch

/-- The switches that may stand at a level: those of a command, then those of the program. -/
def Level.switches : Level → List Switch
  | .top => [.path, .verbose, .noColor, .help, .version]
  | .render => [.data, .output, .noFold, .path, .verbose, .noColor, .help]
  | .check => [.noFold, .path, .verbose, .noColor, .help]

/-- The name of a command. -/
def Level.name : Level → String
  | .top => ""
  | .render => "render"
  | .check => "check"

/-- The commands. -/
def Level.commands : List Level := [.render, .check]

/-- The command of a name. -/
def Level.ofName? (name : String) : Option Level :=
  Level.commands.find? fun level => level.name == name

/-- A data file with the name it is mounted under. -/
structure DataArgument where
  name : String
  path : String
  deriving Repr, DecidableEq

/-- The report of an argument that names no data file. -/
def badDataArgument (raw : String) : String := s!"expected NAME=PATH, got `{raw}`"

/-- Reads a name and a path with an equals sign between them. Blanks around them do not count, and
neither may be empty. -/
def DataArgument.read (raw : String) : Except String DataArgument :=
  let (name, rest) := raw.toList.span fun c => c ≠ '='
  match rest with
  | [] => .error (badDataArgument raw)
  | _ :: path =>
    let name := trim name
    let path := trim path
    if name.isEmpty ∨ path.isEmpty then .error (badDataArgument raw)
    else .ok ⟨String.ofList name, String.ofList path⟩

/-- What the arguments of one level say. -/
structure Choices where
  path : Option String
  verbose : Bool
  noColor : Bool
  data : List DataArgument
  output : Option String
  noFold : Bool
  file : Option String
  deriving Repr, DecidableEq

namespace Choices

/-- Nothing said. -/
def none : Choices := ⟨.none, false, false, [], .none, false, .none⟩

/-- Sets something that may be said once and must not be empty. -/
def once (current : Option String) (value : String) : Option String :=
  if current.isSome ∨ value = "" then .none else some value

/-- Takes in a switch with a value. Only data files may be given more than once. -/
def addValue? (c : Choices) (switch : Switch) (value : String) : Option Choices :=
  match switch with
  | .path => (once c.path value).map fun value => { c with path := some value }
  | .output => (once c.output value).map fun value => { c with output := some value }
  | .data => (DataArgument.read value).toOption.map fun data => { c with data := c.data ++ [data] }
  | _ => .none

/-- Takes in a switch without a value. -/
def addFlag? (c : Choices) (switch : Switch) : Option Choices :=
  match switch with
  | .verbose => if c.verbose then .none else some { c with verbose := true }
  | .noColor => if c.noColor then .none else some { c with noColor := true }
  | .noFold => if c.noFold then .none else some { c with noFold := true }
  | _ => .none

/-- Takes in the template file. -/
def addFile? (c : Choices) (file : String) : Option Choices :=
  (once c.file file).map fun file => { c with file := some file }

end Choices

/-- What the program is to do. -/
inductive Command where
  | render (file : String) (data : List DataArgument) (output : Option String)
  | check (file : String)
  deriving Repr, DecidableEq

/-- A command with the switches that concern all of them. -/
structure Invocation where
  root : Option String
  noFold : Bool
  command : Option Command
  deriving Repr, DecidableEq

/-- What a list of arguments asks for. -/
inductive Request where
  | run (invocation : Invocation)
  | help (level : Level) (long : Bool)
  /-- The help text of the command that prints help texts. -/
  | helpOnHelp
  | version
  deriving Repr, DecidableEq

/-! ### Reading -/

/-- What a switch leads to: reading goes on, or the answer is known. -/
inductive Progress where
  | next (choices : Choices) (rest : List String)
  | done (request : Request)

/-- The text may be the value of the switch before it. -/
def isValue (argument : String) : Bool := argument = "-" || argument.toList.head? != some '-'

/-- Takes in a switch that has a value: one joined to it, or the next argument. -/
def takeValue (c : Choices) (switch : Switch) (joined : Option String) (rest : List String) :
    Option Progress :=
  match joined, rest with
  | some value, _ => (c.addValue? switch value).map fun c => .next c rest
  | none, value :: rest =>
    if isValue value then (c.addValue? switch value).map fun c => .next c rest else none
  | none, [] => none

/-- Takes in a switch that stands by itself. -/
def takeFlag (level : Level) (c : Choices) (switch : Switch) (long : Bool) (rest : List String) :
    Option Progress :=
  match switch with
  | .help => some (.done (.help level long))
  | .version => some (.done .version)
  | _ => (c.addFlag? switch).map fun c => .next c rest

/-- Takes in a switch by its long name; a value may follow an equals sign. -/
def takeLong (level : Level) (c : Choices) (argument : List Char) (rest : List String) :
    Option Progress :=
  let (name, joined) := argument.span fun d => d ≠ '='
  (level.switches.find? fun switch => switch.name.toList == name).bind fun switch =>
    let value := if joined.isEmpty then none else some (String.ofList joined.tail)
    if switch.valueName?.isSome then takeValue c switch value rest
    else if joined.isEmpty then takeFlag level c switch true rest
    else none

/-- Takes in switches by their letters. The rest of the letters is the value of a switch that has
one. -/
def takeLetters (level : Level) (c : Choices) : List Char → List String → Option Progress
  | [], rest => some (.next c rest)
  | letter :: letters, rest =>
    (level.switches.find? fun switch => switch.letter? == some letter).bind fun switch =>
      if switch.valueName?.isSome then
        let joined := match letters with
          | [] => none
          | '=' :: value => some (String.ofList value)
          | value => some (String.ofList value)
        takeValue c switch joined rest
      else
        (takeFlag level c switch false rest).bind fun
          | .next c rest => takeLetters level c letters rest
          | .done request => some (.done request)

/-- What is asked for once all arguments are in: the switches behind the command win. -/
def finish (level : Level) (outer c : Choices) : Option Request :=
  let request (command : Option Command) : Request :=
    .run ⟨c.path.or outer.path, c.noFold, command⟩
  match level with
  | .top => some (request none)
  | .render => c.file.map fun file => request (some (.render file c.data c.output))
  | .check => c.file.map fun file => request (some (.check file))

/-- What is asked for by the arguments behind `help`. -/
def readHelp : List String → Option Request
  | [] => some (.help .top true)
  | [name] =>
    if name = "help" then some .helpOnHelp
    else (Level.ofName? name).map fun level => .help level true
  | _ => none

/-- Reads arguments; each step takes at least one, so `fuel` is their number. Behind `--` there are
no switches and no commands. -/
def readFrom : Nat → Level → Choices → Choices → (escaped : Bool) → List String → Option Request
  | 0, _, _, _, _, _ => none
  | _ + 1, level, outer, c, _, [] => finish level outer c
  | fuel + 1, level, outer, c, escaped, argument :: rest =>
    let proceed (progress : Option Progress) : Option Request :=
      progress.bind fun
        | .next c rest => readFrom fuel level outer c false rest
        | .done request => some request
    if !escaped ∧ argument = "--" then readFrom fuel level outer c true rest
    else if !escaped ∧ !isValue argument then
      match argument.toList with
      | '-' :: '-' :: name => proceed (takeLong level c name rest)
      | letters => proceed (takeLetters level c letters.tail rest)
    else if level ≠ .top then
      (c.addFile? argument).bind fun c => readFrom fuel level outer c escaped rest
    else if escaped then none
    else if argument = "help" then readHelp rest
    else
      (Level.ofName? argument).bind fun level => readFrom fuel level c .none false rest

/-- What a list of arguments asks for. -/
def Request.read? (arguments : List String) : Option Request :=
  readFrom (arguments.length + 1) .top .none .none false arguments

end TagTemplate.CommandLine
