/-!
# Quoting

A single quote protects everything up to the next single quote. A double quote protects
everything up to the next double quote, where a backslash still takes the character after it.
Outside quotes a backslash takes the character after it.
-/

namespace CommandShell

/-- Where a reader of a line stands with respect to quotes and backslashes. -/
inductive Quoting where
  | bare
  | escaped
  | single
  | double
  | doubleEscaped
  deriving DecidableEq, Repr

namespace Quoting

/-- The state after one more character. -/
def step : Quoting → Char → Quoting
  | .bare, c => if c = '\'' then .single else if c = '"' then .double
      else if c = '\\' then .escaped else .bare
  | .escaped, _ => .bare
  | .single, c => if c = '\'' then .bare else .single
  | .double, c => if c = '"' then .bare else if c = '\\' then .doubleEscaped else .double
  | .doubleEscaped, _ => .double

/-- The state after reading a list of characters. -/
def after (quoting : Quoting) (cs : List Char) : Quoting :=
  cs.foldl step quoting

/-- The quote that is still open. -/
def openQuote : Quoting → Option Char
  | .bare | .escaped => none
  | .single => some '\''
  | .double | .doubleEscaped => some '"'

@[simp] theorem after_nil (quoting : Quoting) : quoting.after [] = quoting := rfl

@[simp] theorem after_cons (quoting : Quoting) (c : Char) (cs : List Char) :
    quoting.after (c :: cs) = (quoting.step c).after cs := rfl

theorem after_append (quoting : Quoting) (cs ds : List Char) :
    quoting.after (cs ++ ds) = (quoting.after cs).after ds := by
  simp [after, List.foldl_append]

end Quoting

/-- The quote character left open at the end of a line. -/
def unclosedQuote (line : String) : Option Char :=
  (Quoting.bare.after line.toList).openQuote

def hasUnclosedQuote (line : String) : Bool :=
  (unclosedQuote line).isSome

/-- The line ends in a backslash that is neither quoted nor escaped. -/
def endsWithContinuation (line : String) : Bool :=
  Quoting.bare.after line.toList = .escaped

end CommandShell
