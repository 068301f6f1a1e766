import CommandShell.Pipeline
import CommandShell.Text.Shown

/-!
# Tokens and command lists in the log
-/

namespace CommandShell

/-- A record with named fields. -/
def showRecord (name : String) (fields : List (String × String)) : String :=
  let shown := fields.map fun field => field.1 ++ ": " ++ field.2
  name ++ " \x7b " ++ ", ".intercalate shown ++ " \x7d"

def showBool (b : Bool) : String :=
  if b then "true" else "false"

def RedirectOp.shown : RedirectOp → String
  | .input => "Input"
  | .output => "Output"
  | .append => "Append"
  | .hereDoc => "HereDoc"

def Token.shown : Token → String
  | .word text => "Word(" ++ Text.showText text ++ ")"
  | .pipe => "Pipe"
  | .and => "And"
  | .or => "Or"
  | .redirect op => "Redirect(" ++ op.shown ++ ")"
  | .semicolon => "Semi"
  | .endOfInput => "EOF"

def Redirection.shown (redirection : Redirection) : String :=
  showRecord "Redirection"
    [("operator", redirection.op.shown),
      ("target", Text.showText redirection.target),
      ("quoted", showBool redirection.quoted),
      ("body", match redirection.body with
        | none => "None"
        | some body => "Some(" ++ Text.showText body ++ ")"),
      ("ambiguous", showBool redirection.ambiguous)]

def Command.shown (command : Command) : String :=
  showRecord "Command"
    [("argv", Text.showTexts command.argv),
      ("redirections", Text.showItems (command.redirections.map Redirection.shown)),
      ("expanded", showBool command.expanded)]

def Connective.shown : Connective → String
  | .and => "And"
  | .or => "Or"

def Pipeline.shown (pipeline : Pipeline) : String :=
  showRecord "Pipeline"
    [("commands", Text.showItems (pipeline.commands.map Command.shown)),
      ("logic_op", (pipeline.connective.map Connective.shown).getD "None")]

def CommandList.shown (list : CommandList) : String :=
  Text.showItems (list.map Pipeline.shown)

end CommandShell
