import CommandShell.FileName
import CommandShell.FileTree

/-!
# Following file names

A file name is followed component by component from the root or from the working directory. Each
component, `.` and `..` among them, is looked up in a directory that must be searchable. A directory
that was removed from the tree can still be the working directory; nothing is found or made in it,
but the one above it can be reached.
-/

namespace CommandShell

namespace FileTree

/-- One component further from a directory. -/
def step (tree : FileTree) (path : Path) (name : String) : Except Errno (Path × Node) :=
  if name = "." then .ok (path, .directory)
  else if name = ".." then .ok (path.parent, .directory)
  else if !tree.isDirectory path then .error .noEntry
  else if name.utf8ByteSize > maxComponent then .error .nameTooLong
  else
    match tree.get? (path.child name) with
    | some node => .ok (path.child name, node)
    | none => .error .noEntry

/-- Follows components from directory to directory. -/
def follow (tree : FileTree) (path : Path) : List String → Except Errno Path
  | [] => .ok path
  | name :: rest =>
    if !tree.isSearchable path then .error .accessDenied
    else
      match tree.step path name with
      | .error errno => .error errno
      | .ok (path, node) =>
        if node.isDirectory then tree.follow path rest else .error .notDirectory

/-- The directory in which a file name ends, and its last component. The name is followed from the
working directory `directory`. The root is not looked up in any directory. -/
def locate (tree : FileTree) (directory : Path) (name : String) :
    Except IoError (Path × LastComponent) :=
  match FileName.parse name with
  | .error e => .error e
  | .ok name =>
    match tree.follow (if name.absolute then [] else directory) name.leading with
    | .error errno => .error (.os errno)
    | .ok path =>
      if name.last = .root || tree.isSearchable path then .ok (path, name.last)
      else .error (.os .accessDenied)

/-- What a last component leads to. Only a directory may be followed by slashes. -/
def reach (tree : FileTree) (path : Path) : LastComponent → Except Errno (Path × Node)
  | .root | .here => .ok (path, .directory)
  | .above => .ok (path.parent, .directory)
  | .entry name slash =>
    match tree.step path name with
    | .error errno => .error errno
    | .ok (path, node) =>
      if slash && !node.isDirectory then .error .notDirectory else .ok (path, node)

/-- The node a file name leads to. -/
def lookup (tree : FileTree) (directory : Path) (name : String) : Except IoError (Path × Node) :=
  match tree.locate directory name with
  | .error e => .error e
  | .ok (path, last) => (tree.reach path last).mapError .os

/-- The directory a file name leads to. -/
def directoryAt (tree : FileTree) (directory : Path) (name : String) : Except IoError Path :=
  match tree.lookup directory name with
  | .error e => .error e
  | .ok (path, node) => if node.isDirectory then .ok path else .error (.os .notDirectory)

/-- The directory a file name leads to, if files can be looked up in it. -/
def enter (tree : FileTree) (directory : Path) (name : String) : Except IoError Path :=
  match tree.directoryAt directory name with
  | .error e => .error e
  | .ok path => if tree.isSearchable path then .ok path else .error (.os .accessDenied)

/-- The directory at `path` and all those above it can be searched. -/
def canReach (tree : FileTree) (path : Path) : Bool :=
  (List.range (path.length + 1)).all fun count => tree.isSearchable (path.take count)

/-- The path of the directory at `path` can be made out from there. One that fits into a file name
is known as it is; a longer one is put together on the way up, from directories that are listed. -/
def canName (tree : FileTree) (path : Path) : Bool :=
  path.text.utf8ByteSize < maxFileName ||
    tree.canReach path &&
      (List.range path.length).all fun count => tree.isListable (path.take count)

/-- How a file is opened for writing. -/
inductive WriteMode where
  | truncate
  | append
  deriving DecidableEq, Repr

/-- Opens the entry of a directory for writing, making it if it is missing. An installed program
that is cut becomes an empty file like any other. -/
def openEntry (tree : FileTree) (mode : WriteMode) (path : Path) (name : String) :
    Except Errno (FileTree × Path × Node) :=
  match tree.step path name with
  | .ok (_, .directory) => .error .isDirectory
  | .ok (path, .file content executable) =>
    let node := Node.file (if mode = .truncate then [] else content) executable
    .ok (tree.put path node, path, node)
  | .ok (path, .program program) =>
    if mode = .truncate then .ok (tree.put path (.file [] true), path, .file [] true)
    else .ok (tree, path, .program program)
  | .ok (path, node) => .ok (tree, path, node)
  | .error errno =>
    if errno = .noEntry && tree.isDirectory path then
      .ok (tree.put (path.child name) (.file [] false), path.child name, .file [] false)
    else .error errno

/-- Opens a file for writing, making it if it is missing. A directory cannot be written, and a
name that ends in a slash can only be one. -/
def openWrite (tree : FileTree) (directory : Path) (mode : WriteMode) (name : String) :
    Except IoError (FileTree × Path × Node) :=
  match tree.locate directory name with
  | .error e => .error e
  | .ok (path, .entry name false) => (tree.openEntry mode path name).mapError .os
  | .ok _ => .error (.os .isDirectory)

/-- Makes one directory. -/
def makeDirectory (tree : FileTree) (directory : Path) (name : String) : Except IoError FileTree :=
  match tree.locate directory name with
  | .error e => .error e
  | .ok (path, .entry name _) =>
    match tree.step path name with
    | .ok _ => .error (.os .alreadyExists)
    | .error errno =>
      if errno = .noEntry && tree.isDirectory path then .ok (tree.put (path.child name) .directory)
      else .error (.os errno)
  | .ok _ => .error (.os .alreadyExists)

/-- Removes an empty directory. -/
def removeDirectory (tree : FileTree) (directory : Path) (name : String) :
    Except IoError FileTree :=
  match tree.locate directory name with
  | .error e => .error e
  | .ok (_, .root) => .error (.os .busy)
  | .ok (_, .here) => .error (.os .invalidArgument)
  | .ok (_, .above) => .error (.os .notEmpty)
  | .ok (path, .entry name _) =>
    match tree.step path name with
    | .error errno => .error (.os errno)
    | .ok (path, node) =>
      if !node.isDirectory then .error (.os .notDirectory)
      else if tree.hasChildren path then .error (.os .notEmpty)
      else .ok (tree.remove path)

end FileTree

end CommandShell
