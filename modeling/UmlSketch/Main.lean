import UmlSketch.CommandLine.Run
import UmlSketch.Report

/-! # The program
Carries out the command line of the process on its files and standard streams. What goes wrong is
reported on the standard error stream, so that the standard output holds the diagram alone. -/

namespace UmlSketch

/-- The reason that the operating system gives for an error. -/
def FileError.ofOperatingSystem : IO.Error → FileError
  | .noFileOrDirectory _ _ _ => .notFound
  | .inappropriateType _ _ "Is a directory" => .isDirectory
  | .inappropriateType _ _ "Not a directory" | .inappropriateType _ _ "not a directory" =>
    .notDirectory
  | error => .other (toString error)

/-- The text of some bytes. -/
def textOfBytes (bytes : ByteArray) : Except FileError Text :=
  match Utf8.decode bytes.toList with
  | .ok text => .ok text
  | .error _ => .error .notText

/-- All bytes that a stream has left. -/
partial def readAll (stream : IO.FS.Stream) (read : ByteArray) : IO ByteArray := do
  let bytes ← stream.read 65536
  if bytes.isEmpty then return read
  readAll stream (read ++ bytes)

/-- Carries out an operation of the operating system. -/
def attempt (operation : IO α) : IO (Except FileError α) := do
  try return .ok (← operation)
  catch error => return .error (.ofOperatingSystem error)

/-- Whether a path leads to something. -/
def isThere (path : Text) : IO Bool := do
  match ← attempt (IO.FS.Handle.mk (String.ofList path) .read) with
  | .error .notFound | .error .notDirectory => return false
  | _ => return true

/-- The configuration of the user: in the directory for configurations if it is known, or else below
the home directory. -/
def userConfiguration : IO (Option Text) := do
  let isAbsolute (path : String) : Bool := path.toList.head? = some '/'
  let inDirectory (path : String) : Text := (path ++ "/yuml/config.toml").toList
  match (← IO.getEnv "XDG_CONFIG_HOME").filter isAbsolute, ← IO.getEnv "HOME" with
  | some directory, _ => return some (inDirectory directory)
  | none, some home => return some (inDirectory (home ++ "/.config"))
  | none, none => return none

/-- The operating system as a host. -/
def operatingSystem (userConfiguration : Option Text) : CommandLine.Host IO where
  contains := isThere
  readFile path := do
    let bytes ← attempt (IO.FS.readBinFile (String.ofList path))
    return bytes.bind textOfBytes
  writeFile path content := attempt (IO.FS.writeFile (String.ofList path) (String.ofList content))
  readInput := do
    let bytes ← attempt do readAll (← IO.getStdin) .empty
    return bytes.bind textOfBytes
  writeOutput content := attempt do
    let stream ← IO.getStdout
    stream.putStr (String.ofList content)
    stream.flush
  userConfiguration

end UmlSketch

/-- Carries out the command line. -/
def main (commandLine : List String) : IO UInt32 := do
  let host := UmlSketch.operatingSystem (← UmlSketch.userConfiguration)
  let ending ← UmlSketch.CommandLine.execute host none (commandLine.map String.toList)
  match ending with
  | .written => pure ()
  | .page page => IO.println page.text
  | .rejected error => IO.eprintln ("error: " ++ error.message)
  | .failed failure =>
    for report in UmlSketch.Report.ofFailure failure do
      IO.eprintln report.display
  return ending.status
