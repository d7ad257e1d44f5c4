import UmlSketch.Builder
import UmlSketch.CommandLine.Arguments

/-! # Running a command line
A command line loads the configuration, reads a document, builds it and writes what it is built into.
Reading and writing are the operations of a host; all else is the same for every host. -/

namespace UmlSketch.CommandLine

/-- A **host**: the files and the standard streams that a command line works on. -/
structure Host (m : Type → Type) where
  /-- Whether a path leads to something. -/
  contains : Text → m Bool
  /-- The content of a file. -/
  readFile : Text → m (Except FileError Text)
  /-- Gives a file a content. -/
  writeFile : Text → Text → m (Except FileError Unit)
  /-- All of the standard input. -/
  readInput : m (Except FileError Text)
  /-- Writes to the standard output. -/
  writeOutput : Text → m (Except FileError Unit)
  /-- The configuration of the user, if it is known where it would be. -/
  userConfiguration : Option Text

/-- An operation on files as a part of a run. -/
def onFiles [Monad m] (operation : m (Except FileError α)) : ExceptT Failure m α :=
  ExceptT.mk do return (← operation).mapError Failure.file

/-! ## Configuration -/

/-- The configuration that belongs to a working directory. -/
def localConfiguration : Text := "yuml/config.toml".toList

namespace Host

/-- The first of some paths that leads to something. -/
def firstContained [Monad m] (host : Host m) : List Text → m (Option Text)
  | [] => return none
  | path :: rest => do if ← host.contains path then return some path else host.firstContained rest

/-- Reads the configuration of a file. -/
def readConfiguration [Monad m] (host : Host m) (path : Text) : ExceptT Failure m Configuration := do
  let source ← onFiles (host.readFile path)
  match Configuration.ofText source with
  | .ok configuration => return configuration
  | .error error => throw (.configuration error source)

/-- Loads the configuration: the one that is asked for, which has to be there, or else that of the
working directory, or else that of the user, or else the default. -/
def loadConfiguration [Monad m] (host : Host m) (asked : Option Text) :
    ExceptT Failure m Configuration := do
  match asked with
  | some path =>
    if ← host.contains path then host.readConfiguration path
    else throw (.missingConfiguration path)
  | none =>
    match ← host.firstContained (localConfiguration :: host.userConfiguration.toList) with
    | some path => host.readConfiguration path
    | none => return {}

end Host

/-! ## Running -/

/-- A configuration with the settings of the arguments in front of its own. -/
def Arguments.configure (arguments : Arguments) (configuration : Configuration) : Configuration :=
  { configuration with diagram := arguments.diagram.merge configuration.diagram }

/-- What a document is built into: its graph is described if that is asked for, and otherwise drawn. -/
def Arguments.build (arguments : Arguments) (configuration : Configuration)
    (renderer : Option Renderer) (source : Text) : Except Failure Text :=
  if arguments.dot then ((arguments.configure configuration).build source).map Output.text
  else (arguments.configure configuration).draw renderer source

/-- **Runs** the arguments of a command line. -/
def run [Monad m] (host : Host m) (renderer : Option Renderer) (arguments : Arguments) :
    ExceptT Failure m Unit := do
  let configuration ← host.loadConfiguration arguments.config
  let source ←
    match arguments.input with
    | some path => onFiles (host.readFile path)
    | none => onFiles host.readInput
  let output ← ExceptT.mk (pure (arguments.build configuration renderer source))
  match arguments.output with
  | some path => onFiles (host.writeFile path output)
  | none => onFiles (host.writeOutput (output ++ ['\n']))

/-! ## Command lines -/

/-- How a command line **ends**. -/
inductive Ending
  /-- The output is written. -/
  | written
  /-- A page is asked for. -/
  | page (page : Page)
  /-- The arguments are rejected. -/
  | rejected (error : ArgumentError)
  /-- The run fails. -/
  | failed (failure : Failure)
  deriving DecidableEq, Repr

/-- The exit status of an ending. -/
def Ending.status : Ending → UInt32
  | .written | .page _ => 0
  | .failed _ => 1
  | .rejected _ => 2

/-- Carries out a command line. -/
def execute [Monad m] (host : Host m) (renderer : Option Renderer) (commandLine : List Text) :
    m Ending := do
  match Arguments.ofList commandLine with
  | .error (.page page) => return .page page
  | .error (.error error) => return .rejected error
  | .ok arguments =>
    match ← (run host renderer arguments).run with
    | .ok () => return .written
    | .error failure => return .failed failure

end UmlSketch.CommandLine
