import CommandShell.Toolbox.Count
import CommandShell.Toolbox.Filter
import CommandShell.Toolbox.Script

/-!
# The standard system

The programs a shell finds in `/bin` and `/usr/bin`, and the tree they are installed in.
-/

namespace CommandShell.Toolbox

/-- The standard programs; a name that is none of them does nothing and fails. -/
def standard : Programs := fun name invocation =>
  match name with
  | "true" => leave invocation 0
  | "false" => leave invocation 1
  | "cat" | "more" => cat invocation
  | "tr" => tr invocation
  | "wc" => wc invocation
  | "rmdir" => rmdir invocation
  | "env" => env invocation
  | "sh" => sh invocation
  | _ => leave invocation 127

def names : List String :=
  ["true", "false", "cat", "more", "tr", "wc", "rmdir", "env", "sh"]

/-- The usual directories. -/
def directories : List Path :=
  [["bin"], ["dev"], ["etc"], ["home"], ["tmp"], ["usr", "bin"], ["var"]]

/-- A tree with the usual directories, the devices and the standard programs. -/
def standardTree : FileTree where
  nodes :=
    (directories.foldl FileTree.putDirectories {}).nodes ++
    [(["dev", "null"], .device .null), (["dev", "full"], .device .full)] ++
    names.map (fun name => (["bin", name], .program name)) ++
    names.map (fun name => (["usr", "bin", name], .program name))

end CommandShell.Toolbox
