import CommandShell.Pipeline
import CommandShell.Text.Lines
import CommandShell.Word

/-!
# Expansion of commands

A command is expanded at most once, with the values at the time it runs. Arguments that vanish
are dropped; a redirection whose target vanishes is ambiguous and keeps its text for the message.
-/

namespace CommandShell

namespace Redirection

/-- Expands a here-document body line by line. -/
def expandBody (scope : Scope) (body : String) : String :=
  String.join ((Text.lines body).map fun line => expandHereDocLine scope line ++ "\n")

def expand (scope : Scope) (redirection : Redirection) : Redirection :=
  match redirection.op with
  | .hereDoc =>
    if redirection.quoted then redirection
    else { redirection with body := redirection.body.map (expandBody scope) }
  | _ =>
    let expanded := Word.expand scope redirection.target
    if expanded.vanishes then { redirection with ambiguous := true }
    else { redirection with target := expanded.text }

end Redirection

/-- The arguments that a raw word leaves: one, or none if it vanishes. -/
def Word.argument? (scope : Scope) (raw : String) : Option String :=
  let expanded := Word.expand scope raw
  if expanded.vanishes then none else some expanded.text

namespace Command

def expand (scope : Scope) (command : Command) : Command :=
  if command.expanded then command
  else
    { argv := command.argv.filterMap (Word.argument? scope)
      redirections := command.redirections.map (Redirection.expand scope)
      expanded := true }

/-- The raw words that expansion of the command reads. -/
def expandedWords (command : Command) : List String :=
  if command.expanded then []
  else
    command.argv ++
      (command.redirections.filter fun redirection => redirection.op ≠ .hereDoc).map (·.target)

end Command

namespace Pipeline

def expand (scope : Scope) (pipeline : Pipeline) : Pipeline :=
  { pipeline with commands := pipeline.commands.map (Command.expand scope) }

end Pipeline

namespace CommandList

def expand (scope : Scope) (list : CommandList) : CommandList :=
  list.map (Pipeline.expand scope)

end CommandList

end CommandShell
