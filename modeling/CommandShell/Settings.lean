import CommandShell.EnvFile
import CommandShell.Search

/-!
# Settings
-/

namespace CommandShell

/-- Key bindings of the line editor. -/
inductive EditMode where
  | emacs
  | vi
  deriving DecidableEq, Repr

structure Settings where
  name : String := shellName
  theme : String := "default"
  historyFile : String
  editor : String := "emacs"
  logLevel : String := "warn"
  logDirectory : String
  /-- The log is also shown on standard error. -/
  logShown : Bool := false
  deriving DecidableEq, Repr

namespace Settings

/-- A file in the home directory, or another one if there is no home. -/
def inHome (vars : Variables) (name homeless : String) : String :=
  match vars.text? "HOME" with
  | none | some "" => homeless
  | some home => joinName home name

def default (vars : Variables) : Settings where
  historyFile := inHome vars ".minishell_history" ".minishell_history"
  logDirectory := inHome vars ".cache/minishell" "/tmp/minishell"

/-- The settings that variables ask for. -/
def ofVariables (vars : Variables) : Settings :=
  let base := default vars
  { base with
    theme := (vars.text? "MINISHELL_THEME").getD base.theme
    editor := (vars.text? "MINISHELL_EDITOR").getD base.editor
    historyFile := (vars.text? "MINISHELL_HISTORY").getD base.historyFile
    logLevel := (vars.text? "MINISHELL_LOG_LEVEL").getD base.logLevel
    logDirectory := (vars.text? "MINISHELL_LOG_DIR").getD base.logDirectory
    logShown := vars.isSet "MINISHELL_LOG_STDERR" }

def editMode (settings : Settings) : EditMode :=
  if settings.editor.toList.map Char.toLower = ['v', 'i'] then .vi else .emacs

end Settings

end CommandShell
