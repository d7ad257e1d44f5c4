import UmlSketch.CommandLine.Run
import UmlSketch.Files.Tree
import UmlSketch.Text.Utf8

/-! # Workspaces
A workspace is a host that is a value: a file tree, the standard input and what is written to the
standard output. A command line that is run in it gives the workspace that it leaves behind. -/

namespace UmlSketch.CommandLine

/-- A **workspace**. -/
structure Workspace where
  /-- The files. -/
  tree : FileTree := {}
  /-- The standard input. -/
  input : List UInt8 := []
  /-- What is written to the standard output. -/
  output : Text := []
  deriving DecidableEq, Repr

namespace Workspace

/-- The text that bytes write, as the content of a file. -/
def decode (content : List UInt8) : Except FileError Text :=
  match Utf8.decode content with
  | .ok text => .ok text
  | .error _ => .error .notText

/-- The content of a text file. -/
def read (workspace : Workspace) (path : Text) : Except FileError Text := do
  decode (← workspace.tree.read path)

/-- The workspace after a text is written to a file. -/
def write (workspace : Workspace) (path content : Text) : Except FileError Workspace := do
  .ok { workspace with tree := ← workspace.tree.write path (Utf8.encode content) }

/-- Workspaces as a host; the user keeps the configurations in the directory `xdg`. -/
def host : Host (StateM Workspace) where
  contains path := do return (← get).tree.contains path
  readFile path := do return (← get).read path
  writeFile path content := do
    match (← get).write path content with
    | .ok workspace =>
      set workspace
      return .ok ()
    | .error error => return .error error
  readInput := do return decode (← get).input
  writeOutput content := do
    modify fun workspace => { workspace with output := workspace.output ++ content }
    return .ok ()
  userConfiguration := some "xdg/yuml/config.toml".toList

/-- Runs arguments in a workspace. -/
def run (workspace : Workspace) (renderer : Option Renderer) (arguments : Arguments) :
    Except Failure Unit × Workspace :=
  (CommandLine.run host renderer arguments).run.run workspace

/-- Carries out a command line in a workspace. -/
def execute (workspace : Workspace) (renderer : Option Renderer) (commandLine : List Text) :
    Ending × Workspace :=
  (CommandLine.execute host renderer commandLine).run workspace

end Workspace

end UmlSketch.CommandLine
