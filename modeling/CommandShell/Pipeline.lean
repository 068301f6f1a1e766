import CommandShell.Token

/-!
# Command lists

A line is a list of pipelines joined by connectives. A pipeline is a list of commands; a command
has words and redirections.
-/

namespace CommandShell

structure Redirection where
  op : RedirectOp
  target : String
  /-- The delimiter of a here-document was quoted, so its body is taken as it is. -/
  quoted : Bool := false
  /-- The body of a here-document, once it has been read. -/
  body : Option String := none
  /-- The target expanded to nothing. -/
  ambiguous : Bool := false
  deriving DecidableEq, Repr

namespace Redirection

/-- A here-document whose body is still to be read. -/
def awaitsBody (redirection : Redirection) : Bool :=
  redirection.op = .hereDoc && redirection.body.isNone

end Redirection

structure Command where
  argv : List String := []
  redirections : List Redirection := []
  expanded : Bool := false
  deriving DecidableEq, Repr

/-- What decides whether the next pipeline runs. -/
inductive Connective where
  | and
  | or
  deriving DecidableEq, Repr

namespace Connective

/-- After a pipeline with this status the rest of the line is skipped. -/
def stops : Connective → Int → Bool
  | .and, status => status != 0
  | .or, status => status == 0

end Connective

structure Pipeline where
  commands : List Command := []
  connective : Option Connective := none
  deriving DecidableEq, Repr

abbrev CommandList := List Pipeline

end CommandShell
