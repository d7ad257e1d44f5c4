import UmlSketch.Files.Error

/-! # File trees
A file tree holds files by their paths from its root; a directory is there if a file is somewhere in it,
or if every system has it. A path as it is written starts at the root or at the working directory and is
followed name by name, so that `a/../b` needs the directory `a`. -/

namespace UmlSketch

/-- The names on the way from the root. -/
abbrev Path := List Text

/-- A **file tree**: the contents of the files. -/
structure FileTree where
  /-- The files, each with its path. -/
  files : List (Path × List UInt8) := []
  deriving DecidableEq, Repr

/-- What a path leads to. -/
inductive Place
  /-- A directory. -/
  | directory
  /-- The device that holds nothing and keeps nothing. -/
  | nullDevice
  /-- A file with its content. -/
  | file (path : Path) (content : List UInt8)
  /-- Nothing yet, in a directory that is there. -/
  | vacant (path : Path)
  deriving DecidableEq, Repr

namespace FileTree

/-! ## Directories -/

/-- The working directory. -/
def workingDirectory : Path := ["tmp".toList, "work".toList]

/-- The path of the null device. -/
def nullDevicePath : Path := ["dev".toList, "null".toList]

/-- The names of the directories that the root has on every system. -/
def rootNames : List String :=
  ["bin", "dev", "etc", "home", "lib", "media", "mnt", "opt", "proc", "root", "run", "sbin", "srv",
    "sys", "tmp", "usr", "var"]

/-- Whether a directory is there. -/
def hasDirectory (tree : FileTree) (path : Path) : Bool :=
  path.isPrefixOf workingDirectory || (rootNames.map fun name => [name.toList]).contains path ||
    tree.files.any fun (name, _) => path.isPrefixOf name && path ≠ name

/-- The names of a path as it is written. -/
def namesOf (written : Text) : List Text := (Text.fields '/' written).filter (· ≠ [])

/-- Puts files into a tree, given by their paths from the working directory as they are written. -/
def ofFiles (files : List (Text × List UInt8)) : FileTree :=
  ⟨files.map fun (written, content) => (workingDirectory ++ namesOf written, content)⟩

/-! ## Following paths -/

/-- The greatest length of a name, in bytes. -/
def maxNameLength : Nat := 255

/-- The greatest length of a path as it is written, in bytes. -/
def maxPathLength : Nat := 4095

/-- Follows names from a directory. The root is its own parent. -/
def follow (tree : FileTree) (directory : Path) : List Text → Except FileError Place
  | [] => .ok .directory
  | name :: rest =>
    let path := directory ++ [name]
    if name = ['.'] then tree.follow directory rest
    else if name = ['.', '.'] then tree.follow directory.dropLast rest
    else if maxNameLength < Text.byteLength name then .error .nameTooLong
    else if path = nullDevicePath then
      if rest = [] then .ok .nullDevice else .error .notDirectory
    else
      match tree.files.lookup path with
      | some content => if rest = [] then .ok (.file path content) else .error .notDirectory
      | none =>
        if tree.hasDirectory path then tree.follow path rest
        else if rest = [] then .ok (.vacant path)
        else .error .notFound

/-- The directory in which a path as it is written starts, and its names. -/
def route (written : Text) : Except FileError (Path × List Text) :=
  if written.contains '\x00' then .error .invalidName
  else if written = [] then .error .notFound
  else if maxPathLength < Text.byteLength written then .error .nameTooLong
  else .ok (if written.head? = some '/' then [] else workingDirectory, namesOf written)

/-- Follows a path as it is written. -/
def locate (tree : FileTree) (written : Text) : Except FileError Place := do
  let (start, names) ← route written
  tree.follow start names

/-- Whether a path as it is written may only lead to a directory. -/
def mustBeDirectory (written : Text) : Bool := written.getLast? = some '/'

/-! ## Reading and writing -/

/-- Whether a path leads to a file or a directory. -/
def contains (tree : FileTree) (written : Text) : Bool :=
  match tree.locate written with
  | .ok .directory => true
  | .ok .nullDevice | .ok (.file _ _) => !mustBeDirectory written
  | _ => false

/-- The content of a file. -/
def read (tree : FileTree) (written : Text) : Except FileError (List UInt8) := do
  match ← tree.locate written with
  | .directory => .error .isDirectory
  | .vacant _ => .error .notFound
  | .nullDevice => if mustBeDirectory written then .error .notDirectory else .ok []
  | .file _ content => if mustBeDirectory written then .error .notDirectory else .ok content

/-- Why no file is written at a path that may only lead to a directory: what is there is not looked at
if the directory in which it would be is there. -/
def refuseDirectory (tree : FileTree) (written : Text) : Except FileError FileTree := do
  let (start, names) ← route written
  match ← tree.follow start names.dropLast with
  | .directory => .error .isDirectory
  | .nullDevice | .file _ _ => .error .notDirectory
  | .vacant _ => .error .notFound

/-- Gives a file a content; it takes the place of the old one. -/
def write (tree : FileTree) (written : Text) (content : List UInt8) : Except FileError FileTree := do
  if mustBeDirectory written then tree.refuseDirectory written
  else
    match ← tree.locate written with
    | .directory => .error .isDirectory
    | .nullDevice => .ok tree
    | .vacant path | .file path _ =>
      .ok ⟨(path, content) :: tree.files.filter fun (name, _) => name ≠ path⟩

end FileTree

end UmlSketch
