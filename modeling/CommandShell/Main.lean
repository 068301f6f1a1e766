import CommandShell.Startup
import CommandShell.Toolbox
import Std.Time

/-!
# The command line

A shell on a machine that is held in memory: the standard programs in the usual directories and,
if a script was named, its file. Arguments, variables and standard input are real.
-/

namespace CommandShell.Main

/-- The variables that are handed on. -/
def variableNames : List String :=
  ["HOME", "PATH", "SHLVL", "MINISHELL_THEME", "MINISHELL_EDITOR", "MINISHELL_HISTORY",
    "MINISHELL_LOG_LEVEL", "MINISHELL_LOG_DIR", "MINISHELL_LOG_STDERR"]

def readVariables : IO Variables :=
  variableNames.filterMapM fun name => do
    return (← IO.getEnv name).map fun value => (name, Bytes.ofText value)

/-- The world with a copy of a file, if it can be read. -/
def withFile (world : World) (name : String) : IO World := do
  try
    let content := (← IO.FS.readBinFile name).toList
    return world.install name content false
  catch _ => return world

def startWorld (arguments : List String) (stdin : Bytes) : IO World :=
  let world : World :=
    { programs := Toolbox.standard
      files := Toolbox.standardTree
      directory := ["home"]
      stdin := { rest := stdin } }
  match arguments with
  | [] | "-c" :: _ => return world
  | name :: _ => withFile world name

end CommandShell.Main

open CommandShell in
def main (arguments : List String) : IO UInt32 := do
  let input ← IO.getStdin
  let stdin ← if !arguments.isEmpty && (← input.isTty) then pure [] else do
    pure (← input.readBinToEnd).toList
  let now ← Std.Time.PlainDateTime.now
  let outcome := Startup.run
    { arguments
      vars := ← Main.readVariables
      world := ← Main.startWorld arguments stdin
      date := now.date.toSQLDateString
      clock := now.time.toTime24Hour
      process := 1 }
  (← IO.getStdout).write ⟨outcome.stdout.toArray⟩
  (← IO.getStderr).write ⟨outcome.stderr.toArray⟩
  return outcome.code.toUInt32
