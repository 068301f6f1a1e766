/-!
# Tokens
-/

namespace CommandShell

/-- The redirection operators `<`, `>`, `>>` and `<<`. -/
inductive RedirectOp where
  | input
  | output
  | append
  | hereDoc
  deriving DecidableEq, Repr

namespace RedirectOp

def text : RedirectOp → String
  | .input => "<"
  | .output => ">"
  | .append => ">>"
  | .hereDoc => "<<"

/-- The number of characters of the operator. -/
def width : RedirectOp → Nat
  | .input | .output => 1
  | .append | .hereDoc => 2

/-- The operator gives a command its input. -/
def reads : RedirectOp → Bool
  | .input | .hereDoc => true
  | .output | .append => false

end RedirectOp

/-- The tokens of a command line. A word keeps its text as typed, quotes included. -/
inductive Token where
  | word (text : String)
  | pipe
  | and
  | or
  | redirect (op : RedirectOp)
  | semicolon
  | endOfInput
  deriving DecidableEq, Repr

namespace Token

def text : Token → String
  | .word text => text
  | .pipe => "|"
  | .and => "&&"
  | .or => "||"
  | .redirect op => op.text
  | .semicolon => ";"
  | .endOfInput => "newline"

def isWord : Token → Bool
  | .word _ => true
  | _ => false

theorem exists_word_of_isWord {token : Token} (h : token.isWord = true) :
    ∃ text, token = .word text := by
  cases token with
  | word text => exact ⟨text, rfl⟩
  | _ => cases h

/-- The token joins two commands. -/
def isControl : Token → Bool
  | .pipe | .and | .or => true
  | _ => false

def isRedirect : Token → Bool
  | .redirect _ => true
  | _ => false

end Token

end CommandShell
