import CommandShell.FileTree.Walk
import CommandShell.History
import CommandShell.Program
import CommandShell.Transcript

/-!
# The world around a shell
-/

namespace CommandShell

/-- What is left of a standard input. -/
structure StandardInput where
  rest : Bytes := []
  /-- The number of bytes before it, if it is a file. -/
  offset : Option Nat := none

namespace StandardInput

/-- A file that is read from its start. -/
def ofFile (content : Bytes) : StandardInput where
  rest := content
  offset := some 0

def drop (input : StandardInput) (count : Nat) : StandardInput where
  rest := input.rest.drop count
  offset := input.offset.map (· + count)

end StandardInput

structure World where
  /-- What the installed programs do. -/
  programs : Programs
  files : FileTree := {}
  /-- The working directory. -/
  directory : Path := []
  /-- The shell's standard input. -/
  stdin : StandardInput := {}
  /-- The directory for temporary files. -/
  temporary : String := "/tmp"

namespace World

/-- The path of the working directory, unless it was removed or cannot be made out. -/
def currentDirectory (world : World) : Except IoError String :=
  if !world.files.isDirectory world.directory then .error (.os .noEntry)
  else if world.files.canName world.directory then .ok world.directory.text
  else .error (.os .accessDenied)

/-- Makes a file name's directory the working directory. -/
def changeDirectory (world : World) (name : String) : Except IoError World :=
  (world.files.enter world.directory name).map fun directory => { world with directory }

/-- The bytes of a file. Devices and installed programs have none. -/
def readFile (world : World) (name : String) : Except IoError Bytes :=
  match world.files.lookup world.directory name with
  | .error e => .error e
  | .ok (_, .directory) => .error (.os .isDirectory)
  | .ok (_, .file content _) => .ok content
  | .ok _ => .ok []

/-- Writes a file anew. -/
def writeFile (world : World) (name : String) (bytes : Bytes) : Except IoError World :=
  match world.files.openWrite world.directory .truncate name with
  | .error e => .error e
  | .ok (_, _, .device .full) =>
    if bytes.isEmpty then .ok world else .error (.os .noSpace)
  | .ok (files, path, _) => .ok { world with files := files.append path bytes }

/-- Why no temporary file can be made. In a directory that was removed it is not permitted; without
a directory's name it is made in the working directory by a name of its own, and not found there. -/
def temporaryError? (world : World) : Option IoError :=
  let name := if world.temporary = "" then "." else world.temporary
  match world.files.enter world.directory name with
  | .error e => some e
  | .ok path =>
    if world.files.isDirectory path then none
    else some (.os (if world.temporary = "" then .noEntry else .notPermitted))

/-- Characters of a file name, last one first, without the slashes and `.` components at the end
that do not change where it leads. -/
def stripTail : List Char → List Char
  | '/' :: rest => stripTail rest
  | '.' :: '/' :: rest => stripTail rest
  | cs => cs

/-- The file name of the directory that holds a file, if the name has another component. -/
def parentName? (name : String) : Option String :=
  let body := stripTail name.toList.reverse
  if body.isEmpty then none
  else
    let above := stripTail (body.dropWhile fun c => c ≠ '/')
    if above.isEmpty && isAbsolute name then some "/" else some (String.ofList above.reverse)

/-- A file name and those of the directories above it, from the inside out, without the root and
the working directory. The first argument bounds their number. -/
def namesUpward : Nat → String → List String
  | 0, _ => []
  | limit + 1, name =>
    match parentName? name with
    | none => []
    | some parent => name :: namesUpward limit parent

/-- Makes one directory, unless there is one. -/
def ensureDirectory (world : World) (name : String) : Except IoError World :=
  match world.files.makeDirectory world.directory name with
  | .ok files => .ok { world with files }
  | .error e =>
    if e = .os .alreadyExists && (world.files.directoryAt world.directory name).isOk then .ok world
    else .error e

/-- Goes up to the first directory that is there or can be made; gives those below it. -/
def climb (world : World) : List String → Except IoError (World × List String)
  | [] => .ok (world, [])
  | name :: above =>
    match world.ensureDirectory name with
    | .ok world => .ok (world, [])
    | .error e =>
      if e = .os .noEntry then
        (world.climb above).map fun (world, missing) => (world, name :: missing)
      else .error e

/-- Makes directories up to the first that cannot be made. -/
def ensureDirectories (world : World) : List String → World × Except IoError Unit
  | [] => (world, .ok ())
  | name :: rest =>
    match world.ensureDirectory name with
    | .error e => (world, .error e)
    | .ok world => world.ensureDirectories rest

/-- Makes a directory and the missing ones above it. If one of them cannot be made, those before
it stay. -/
def createDirectories (world : World) (name : String) : World × Except IoError Unit :=
  match world.climb (namesUpward (name.length + 1) name) with
  | .error e => (world, .error e)
  | .ok (world, missing) => world.ensureDirectories missing.reverse

/-- Makes the directory that holds a file. -/
def createParents (world : World) (name : String) : World × Except IoError Unit :=
  match parentName? name with
  | none => (world, .ok ())
  | some parent => world.createDirectories parent

/-- Puts a file into the tree, and the directories above it. -/
def install (world : World) (name : String) (content : Bytes) (executable : Bool) : World :=
  let (world, _) := world.createParents name
  match world.files.openWrite world.directory .truncate name with
  | .ok (files, path, .file ..) =>
    { world with files := files.put path (.file content executable) }
  | _ => world

end World

namespace History

/-- A history from a file. A file that cannot be read gives no entries. -/
def load (world : World) (path : String) : History × Transcript :=
  let content : Except IoError String :=
    match world.readFile path with
    | .error e => .error e
    | .ok bytes =>
      match Bytes.toText? bytes with
      | some text => .ok text
      | none => .error .notUtf8
  match content with
  | .ok text =>
    let entries := parseEntries text
    ({ path := some path, entries },
      [.log .debug ("历史记录加载成功: " ++ toString entries.length ++ " 条")])
  | .error e =>
    let warning : Transcript :=
      if e = .os .noEntry then [] else [.log .warn ("无法加载历史记录: " ++ path ++ " " ++ e.detail)]
    ({ path := some path }, warning ++ [.log .debug "历史记录加载成功: 0 条"])

/-- Writes a history to its file, whose directory is made if it is missing. -/
def save (history : History) (world : World) : World × Except IoError Unit :=
  match history.path with
  | none => (world, .ok ())
  | some path =>
    match world.createParents path with
    | (world, .error e) => (world, .error e)
    | (world, .ok ()) =>
      match world.writeFile path (Bytes.ofText (renderEntries history.entries)) with
      | .error e => (world, .error e)
      | .ok world => (world, .ok ())

end History

end CommandShell
