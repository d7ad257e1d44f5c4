import UmlSketch.Text.Basic

/-! # Errors of files
Why a file cannot be read or written, in the wording of the operating system. -/

namespace UmlSketch

/-- Why a **file** cannot be read or written. -/
inductive FileError
  /-- There is no such file. -/
  | notFound
  /-- What stands in place of a directory is a file. -/
  | notDirectory
  /-- What stands in place of a file is a directory. -/
  | isDirectory
  /-- A name in the path is too long. -/
  | nameTooLong
  /-- The path holds a character that no path holds. -/
  | invalidName
  /-- The content is not a text. -/
  | notText
  /-- The operating system gives another reason. -/
  | other (message : String)
  deriving DecidableEq, Repr

/-- The wording of an error. -/
def FileError.message : FileError → String
  | .notFound => "No such file or directory (os error 2)"
  | .notDirectory => "Not a directory (os error 20)"
  | .isDirectory => "Is a directory (os error 21)"
  | .nameTooLong => "File name too long (os error 36)"
  | .invalidName => "file name contained an unexpected NUL byte"
  | .notText => "stream did not contain valid UTF-8"
  | .other message => message

end UmlSketch
