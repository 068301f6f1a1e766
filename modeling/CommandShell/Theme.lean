/-!
# Prompts
-/

namespace CommandShell

/-- The prompts of a shell. -/
structure Theme where
  prompt : String
  continuation : String
  hereDoc : String
  deriving DecidableEq, Repr

namespace Theme

/-- Text between a terminal's colour sequence and its reset. -/
def painted (colour text : String) : String :=
  "\x1b[" ++ colour ++ "m" ++ text ++ "\x1b[0m"

def plain : Theme where
  prompt := "minishell$ "
  continuation := "> "
  hereDoc := "> "

/-- Bold bright cyan and bright black. -/
def coloured : Theme where
  prompt := painted "1;96" "minishell$" ++ " "
  continuation := painted "90" ">" ++ " "
  hereDoc := painted "90" ">" ++ " "

/-- The theme of a name. Every name but `plain` stands for the default theme, which is coloured
where the terminal shows colours. -/
def load (colours : Bool) (name : String) : Theme :=
  if name = "plain" then plain else if colours then coloured else plain

end Theme

end CommandShell
