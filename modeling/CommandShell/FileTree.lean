import CommandShell.Bytes

/-!
# File trees

A file tree maps absolute paths to nodes. The root is always a directory. Programs that come with
the system are nodes of their own: they are named, and what they do is said elsewhere. A tree also
says which directories the account that runs the shell may not search or list.
-/

namespace CommandShell

/-- An absolute path without `.` and `..`, as its names from the root on. -/
abbrev Path := List String

namespace Path

def parent (path : Path) : Path :=
  path.dropLast

def child (path : Path) (name : String) : Path :=
  path ++ [name]

def text (path : Path) : String :=
  match path with
  | [] => "/"
  | names => String.join (names.map fun name => "/" ++ name)

end Path

/-- Special files: one takes everything, one takes nothing. Both read as empty. -/
inductive Device where
  | null
  | full
  deriving DecidableEq, Repr

inductive Node where
  | directory
  | file (content : Bytes) (executable : Bool)
  | device (device : Device)
  | program (name : String)
  deriving DecidableEq, Repr

namespace Node

def isDirectory : Node → Bool
  | .directory => true
  | _ => false

/-- A regular file, an installed program included. -/
def isRegular : Node → Bool
  | .file .. | .program _ => true
  | _ => false

def isExecutable : Node → Bool
  | .file _ executable => executable
  | .program _ => true
  | _ => false

end Node

/-- The directories that lack a permission. -/
structure Restrictions where
  /-- Nothing can be looked up in these, and none can be made the working directory. -/
  unsearchable : List Path := []
  /-- The names of the entries of these cannot be read. -/
  unlistable : List Path := []
  deriving DecidableEq, Repr

namespace Restrictions

/-- A directory that is removed takes its restrictions with it. -/
def drop (restrictions : Restrictions) (path : Path) : Restrictions where
  unsearchable := restrictions.unsearchable.filter fun other => other ≠ path
  unlistable := restrictions.unlistable.filter fun other => other ≠ path

end Restrictions

structure FileTree where
  nodes : List (Path × Node) := []
  restrictions : Restrictions := {}
  deriving DecidableEq, Repr

namespace FileTree

def get? (tree : FileTree) (path : Path) : Option Node :=
  if path = [] then some .directory else tree.nodes.lookup path

def isDirectory (tree : FileTree) (path : Path) : Bool :=
  (tree.get? path).any Node.isDirectory

def isSearchable (tree : FileTree) (path : Path) : Bool :=
  !tree.restrictions.unsearchable.contains path

def isListable (tree : FileTree) (path : Path) : Bool :=
  !tree.restrictions.unlistable.contains path

/-- Sets a node in a list of nodes. -/
def setNode (path : Path) (node : Node) : List (Path × Node) → List (Path × Node)
  | [] => [(path, node)]
  | (key, old) :: rest =>
    if key = path then (key, node) :: rest else (key, old) :: setNode path node rest

/-- Adds a node or replaces the one at its path. -/
def put (tree : FileTree) (path : Path) (node : Node) : FileTree :=
  { tree with nodes := setNode path node tree.nodes }

def remove (tree : FileTree) (path : Path) : FileTree :=
  { nodes := tree.nodes.filter fun entry => entry.1 ≠ path
    restrictions := tree.restrictions.drop path }

/-- Some node lies directly in the directory at `path`. -/
def hasChildren (tree : FileTree) (path : Path) : Bool :=
  tree.nodes.any fun entry => entry.1 ≠ [] && Path.parent entry.1 = path

/-- The content of the regular file at `path`. -/
def content (tree : FileTree) (path : Path) : Bytes :=
  match tree.get? path with
  | some (.file content _) => content
  | _ => []

/-- Adds bytes at the end of the file at `path`. -/
def append (tree : FileTree) (path : Path) (bytes : Bytes) : FileTree :=
  match tree.get? path with
  | some (.file content executable) => tree.put path (.file (content ++ bytes) executable)
  | _ => tree

/-- Makes the directory at `path` and those above it. -/
def putDirectories (tree : FileTree) (path : Path) : FileTree :=
  (List.range path.length).foldl
    (fun tree n =>
      let directory := path.take (n + 1)
      if (tree.get? directory).isSome then tree else tree.put directory .directory)
    tree

end FileTree

end CommandShell
