import UmlSketch.Configuration.Basic

/-! # Command line arguments
The arguments of a command line name an input, settings with a value, and flags. A setting may stand in
front of its value, or be joined to it as in `--output=file`, `-ofile` and `-o=file`; after `--` all
arguments are inputs. Each setting and flag may be given once. The value of a setting that stands alone
is checked late: when the next setting, flag or input that is known comes up, or at the end. -/

namespace UmlSketch.CommandLine

/-! ## What arguments name -/

/-- A **setting** of the command line; it has a value. -/
inductive Setting
  /-- The file to write. -/
  | output
  /-- The kind of diagram that a document starts from. -/
  | kind
  /-- The direction that a document starts from. -/
  | direction
  /-- The configuration to read. -/
  | config
  /-- How much is logged. -/
  | logLevel
  deriving DecidableEq, Repr

/-- A **flag** of the command line; it has no value. -/
inductive Flag
  /-- Lines and texts are white. -/
  | dark
  /-- Graphs are described and not drawn. -/
  | dot
  deriving DecidableEq, Repr

/-- A **page** of text that is shown in place of a diagram. -/
inductive Page
  /-- What the arguments are. -/
  | help
  /-- The version of the program. -/
  | version
  deriving DecidableEq, Repr

/-- What an argument names. -/
inductive Switch
  /-- A setting. -/
  | setting (setting : Setting)
  /-- A flag. -/
  | flag (flag : Flag)
  /-- A page. -/
  | page (page : Page)
  deriving DecidableEq, Repr

namespace Switch

/-- The name after two dashes. -/
def longName : Switch → String
  | .setting .output => "output"
  | .setting .kind => "type"
  | .setting .direction => "dir"
  | .setting .config => "config"
  | .setting .logLevel => "log-level"
  | .flag .dark => "dark"
  | .flag .dot => "dot"
  | .page .help => "help"
  | .page .version => "version"

/-- The letter after one dash. -/
def letter? : Switch → Option Char
  | .setting .output => some 'o'
  | .setting .config => some 'c'
  | .page .help => some 'h'
  | .page .version => some 'V'
  | _ => none

/-- Everything that can be named. -/
def all : List Switch :=
  [.setting .output, .setting .kind, .setting .direction, .flag .dark, .flag .dot, .setting .config,
    .setting .logLevel, .page .help, .page .version]

/-- What a name after two dashes stands for. -/
def ofLongName? (name : Text) : Option Switch := all.find? fun switch => switch.longName.toList = name

/-- What a letter after one dash stands for. -/
def ofLetter? (letter : Char) : Option Switch := all.find? fun switch => switch.letter? = some letter

end Switch

/-- The text of a page. -/
def Page.text : Page → String
  | .version => "yuml 0.1.0"
  | .help =>
    "Usage: yuml [OPTIONS] [INPUT]\n\n" ++
    "  [INPUT]                 Path to the input file (reads stdin when omitted)\n\n" ++
    "Options:\n" ++
    "  -o, --output <OUTPUT>   Path to the output file; standard output when omitted\n" ++
    "      --type <TYPE>       Diagram type of documents without a type directive\n" ++
    "      --dir <DIRECTION>   Direction of documents without a direction directive\n" ++
    "      --dark              Draw white lines and text on a transparent background\n" ++
    "      --dot               Write the DOT document instead of rendering it\n" ++
    "  -c, --config <CONFIG>   Path to the configuration file (TOML)\n" ++
    "      --log-level <LEVEL> Log level (off, error, warn, info, debug, trace)\n" ++
    "  -h, --help              Print help\n" ++
    "  -V, --version           Print version"

/-! ## Arguments -/

/-- The **arguments** of a command line. -/
structure Arguments where
  /-- The file to read; the standard input if there is none. -/
  input : Option Text := none
  /-- The file to write; the standard output if there is none. -/
  output : Option Text := none
  /-- The name of a kind of diagram. -/
  kind : Option Text := none
  /-- The name of a direction. -/
  direction : Option Text := none
  /-- Whether lines and texts are white. -/
  dark : Bool := false
  /-- Whether graphs are described and not drawn. -/
  dot : Bool := false
  /-- The configuration to read. -/
  config : Option Text := none
  /-- How much is logged, if it is said. -/
  logLevel : Option Text := none
  deriving DecidableEq, Repr

namespace Arguments

/-- How much is logged. -/
def logLevelName (arguments : Arguments) : Text := arguments.logLevel.getD "info".toList

/-- The settings of diagrams. -/
def diagram (arguments : Arguments) : DiagramSettings :=
  ⟨arguments.kind, arguments.direction, arguments.dark⟩

/-- The value of a setting. -/
def value? (arguments : Arguments) : Setting → Option Text
  | .output => arguments.output
  | .kind => arguments.kind
  | .direction => arguments.direction
  | .config => arguments.config
  | .logLevel => arguments.logLevel

/-- Gives a setting a value. -/
def setValue (arguments : Arguments) (value : Text) : Setting → Arguments
  | .output => { arguments with output := some value }
  | .kind => { arguments with kind := some value }
  | .direction => { arguments with direction := some value }
  | .config => { arguments with config := some value }
  | .logLevel => { arguments with logLevel := some value }

/-- Whether a flag is given. -/
def has (arguments : Arguments) : Flag → Bool
  | .dark => arguments.dark
  | .dot => arguments.dot

/-- Gives a flag. -/
def setFlag (arguments : Arguments) : Flag → Arguments
  | .dark => { arguments with dark := true }
  | .dot => { arguments with dot := true }

end Arguments

/-! ## Errors -/

/-- Why a command line is rejected. -/
inductive ArgumentError
  /-- An argument names nothing, or there is more than one input. -/
  | unknown (argument : Text)
  /-- A setting has no value. -/
  | missingValue (setting : Setting)
  /-- A setting or a flag is given twice. -/
  | repeated (switch : Switch)
  /-- A value is joined to something that has none. -/
  | unexpectedValue (switch : Switch)
  deriving DecidableEq, Repr

/-- What is wrong with a command line. -/
def ArgumentError.message : ArgumentError → String
  | .unknown argument => "unexpected argument " ++ quoted argument
  | .missingValue setting => "`--" ++ (Switch.setting setting).longName ++ "` needs a value"
  | .repeated switch => "`--" ++ switch.longName ++ "` is given more than once"
  | .unexpectedValue switch => "`--" ++ switch.longName ++ "` has no value"

/-- Why a command line asks for no diagram. -/
inductive Refusal
  /-- It asks for a page. -/
  | page (page : Page)
  /-- It is rejected. -/
  | error (error : ArgumentError)
  deriving DecidableEq, Repr

/-! ## Reading -/

/-- What is known after some of the arguments. -/
structure Progress where
  /-- What they say. -/
  arguments : Arguments := {}
  /-- The setting that stands alone and is not checked yet, and its value if it is known. -/
  pending : Option (Setting × Option Text) := none
  /-- Whether all further arguments are inputs. -/
  inputsOnly : Bool := false
  deriving DecidableEq, Repr

namespace Progress

/-- Gives a setting its value, unless it has one. -/
def give (progress : Progress) (setting : Setting) (value : Text) : Except Refusal Progress :=
  if (progress.arguments.value? setting).isSome then .error (.error (.repeated (.setting setting)))
  else .ok { progress with arguments := progress.arguments.setValue value setting }

/-- Checks the setting that stands alone. -/
def settle (progress : Progress) : Except Refusal Progress :=
  match progress.pending with
  | none => .ok progress
  | some (setting, none) => .error (.error (.missingValue setting))
  | some (setting, some value) => { progress with pending := none }.give setting value

/-- Takes up a setting, a flag or a page, with the value that is joined to it. -/
def takeSwitch (progress : Progress) (switch : Switch) (joined : Option Text) :
    Except Refusal Progress :=
  match switch, joined with
  | .setting setting, some value => do (← progress.settle).give setting value
  | .setting setting, none => do .ok { ← progress.settle with pending := some (setting, none) }
  | _, some _ => .error (.error (.unexpectedValue switch))
  | .flag flag, none => do
    let settled ← progress.settle
    if settled.arguments.has flag then .error (.error (.repeated switch))
    else .ok { settled with arguments := settled.arguments.setFlag flag }
  | .page page, none => do
    let _ ← progress.settle
    .error (.page page)

/-- Takes up an argument with two dashes, without them. -/
def takeLong (progress : Progress) (text : Text) : Except Refusal Progress :=
  let name := text.takeWhile (· ≠ '=')
  let joined := if text.contains '=' then some (text.drop (name.length + 1)) else none
  match Switch.ofLongName? name with
  | some switch => progress.takeSwitch switch joined
  | none => .error (.error (.unknown ('-' :: '-' :: text)))

/-- Takes up the letters after one dash. What follows the letter of a setting is its value. -/
def takeLetters (progress : Progress) : Text → Except Refusal Progress
  | [] => .ok progress
  | letter :: rest =>
    match Switch.ofLetter? letter with
    | none => .error (.error (.unknown ['-', letter]))
    | some (.setting setting) =>
      let joined := if rest = [] then none else some ((Text.dropStart? ['='] rest).getD rest)
      progress.takeSwitch (.setting setting) joined
    | some switch => do (← progress.takeSwitch switch none).takeLetters rest

/-- Takes up an input. -/
def takeInput (progress : Progress) (input : Text) : Except Refusal Progress :=
  if progress.arguments.input.isSome then .error (.error (.unknown input))
  else do
    let settled ← progress.settle
    .ok { settled with arguments := { settled.arguments with input := some input } }

/-- Takes up the next argument. -/
def take (progress : Progress) (argument : Text) : Except Refusal Progress :=
  if progress.inputsOnly then progress.takeInput argument
  else
    match argument with
    | ['-', '-'] => .ok { progress with inputsOnly := true }
    | '-' :: '-' :: text => progress.takeLong text
    | '-' :: letter :: rest => progress.takeLetters (letter :: rest)
    | _ =>
      match progress.pending with
      | some (setting, none) => .ok { progress with pending := some (setting, some argument) }
      | _ => progress.takeInput argument

end Progress

/-- **Reads the arguments** of a command line. -/
def Arguments.ofList (arguments : List Text) : Except Refusal Arguments := do
  let progress ← arguments.foldlM Progress.take {}
  .ok (← progress.settle).arguments

end UmlSketch.CommandLine
