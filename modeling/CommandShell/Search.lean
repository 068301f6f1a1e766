import CommandShell.Environment
import CommandShell.FileTree.Walk
import CommandShell.Transcript

/-!
# Finding programs

A name with a slash is a file name. Any other name is looked up in the directories of `PATH`.
-/

namespace CommandShell

/-- The directories of a search path; an empty entry is the working directory. -/
def searchDirectories (path : String) : List String :=
  (Text.split ':' path).map fun entry => if entry = "" then "." else entry

/-- The file name of `name` in a directory; an absolute name stands for itself. -/
def joinName (directory name : String) : String :=
  if isAbsolute name || directory = "" then name
  else if directory.toList.getLast? = some '/' then directory ++ name
  else directory ++ "/" ++ name

/-- The outcome of a search and what it leaves in the log. -/
structure SearchResult where
  found : Option String
  notes : Transcript := []

/-- What a candidate that cannot be looked at leaves in the log. -/
def searchNotes (candidate : String) (cause : IoError) : Transcript :=
  if cause = .os .noEntry || cause = .os .accessDenied then []
  else [.log .error ("minishell: metadata error: " ++ candidate ++ ": " ++ cause.detail)]

/-- The first candidate that is an executable file, or else the first regular file; `fallback` is
a regular file that was met before. -/
def searchCandidates (files : FileTree) (directory : Path) (fallback : Option String) :
    List String → SearchResult
  | [] => { found := fallback }
  | candidate :: rest =>
    match files.lookup directory candidate with
    | .error cause =>
      let result := searchCandidates files directory fallback rest
      { result with notes := searchNotes candidate cause ++ result.notes }
    | .ok (_, node) =>
      if !node.isRegular then searchCandidates files directory fallback rest
      else if node.isExecutable then
        { found := some candidate, notes := [.log .debug ("在 PATH 中找到命令: " ++ candidate)] }
      else searchCandidates files directory (fallback.orElse fun _ => some candidate) rest

/-- Searches a name in the directories of a search path. -/
def searchPath (files : FileTree) (directory : Path) (name path : String) : SearchResult :=
  searchCandidates files directory none
    ((searchDirectories path).map fun entry => joinName entry name)

/-- The file that a command name stands for. -/
def resolveCommand (files : FileTree) (directory : Path) (environment : Environment)
    (name : String) : Except ShellError String × Transcript :=
  if name = "" then (.error (.commandNotFound ""), [])
  else if name.toList.any fun c => c = '/' then
    match files.lookup directory name with
    | .error cause => (.error (.cannotExecute name cause.errno), [])
    | .ok (_, .directory) => (.error (.cannotExecute name .isDirectory), [])
    | .ok _ => (.ok name, [])
  else
    match environment.get? "PATH" with
    | none => (.error (.commandNotFound name), [])
    | some path =>
      let result := searchPath files directory name path
      match result.found with
      | some file => (.ok file, result.notes)
      | none => (.error (.commandNotFound name), result.notes)

end CommandShell
