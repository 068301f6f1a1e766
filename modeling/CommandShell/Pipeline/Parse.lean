import CommandShell.Error
import CommandShell.Pipeline
import CommandShell.Token.Scan
import CommandShell.Token.Validate
import CommandShell.Word

/-!
# Parsing

A token list is read from left to right into a command list. Words and redirections may come in
any order; a command needs at least one of them. An end-of-input token ends the list.
-/

namespace CommandShell

/-- The redirection written with an operator and a word. -/
def Redirection.ofWord (op : RedirectOp) (word : String) : Redirection :=
  match op with
  | .hereDoc =>
    { op, target := Word.removeQuotes word,
      quoted := word.toList.any fun c => c = '\'' || c = '"' }
  | _ => { op, target := word }

/-- A line from inside a command on: what is left of the command, the commands after it in its
pipeline, the connective after that, and the pipelines that follow. -/
structure Remainder where
  command : Command := {}
  commands : List Command := []
  connective : Option Connective := none
  following : CommandList := []

namespace Remainder

def toList (remainder : Remainder) : CommandList :=
  { commands := remainder.command :: remainder.commands, connective := remainder.connective } ::
    remainder.following

def addWord (word : String) (remainder : Remainder) : Remainder :=
  { remainder with command := { remainder.command with argv := word :: remainder.command.argv } }

def addRedirection (redirection : Redirection) (remainder : Remainder) : Remainder :=
  { remainder with
    command := { remainder.command with
      redirections := redirection :: remainder.command.redirections } }

/-- The end of a command before a pipe. -/
def afterPipe (remainder : Remainder) : Remainder :=
  { command := {}, commands := remainder.command :: remainder.commands,
    connective := remainder.connective, following := remainder.following }

/-- The end of a pipeline before a connective. -/
def afterConnective (connective : Connective) (remainder : Remainder) : Remainder :=
  { connective := some connective, following := remainder.toList }

end Remainder

/-- The text of the first token, the end of input standing for a missing one. -/
def Token.headText (tokens : List Token) : String :=
  (tokens.head?.getD .endOfInput).text

/-- Reads on inside a command; `started` tells whether the command has a word or redirection. -/
def Remainder.read (started : Bool) : List Token → Except ShellError Remainder
  | .word word :: rest => (Remainder.read true rest).map (Remainder.addWord word)
  | .redirect op :: .word word :: rest =>
    (Remainder.read true rest).map (Remainder.addRedirection (.ofWord op word))
  | .redirect _ :: rest => .error (.unexpectedToken (Token.headText rest))
  | tokens =>
    if started then
      match tokens with
      | .pipe :: rest => (Remainder.read false rest).map Remainder.afterPipe
      | .and :: rest => (Remainder.read false rest).map (Remainder.afterConnective .and)
      | .or :: rest => (Remainder.read false rest).map (Remainder.afterConnective .or)
      | .semicolon :: _ => .error (.unexpectedToken Token.semicolon.text)
      | _ => .ok {}
    else .error (.unexpectedToken (Token.headText tokens))

/-- Parses a token list that need not have been validated. -/
def parseTokens : List Token → Except ShellError CommandList
  | [] | .endOfInput :: _ => .ok []
  | tokens => (Remainder.read false tokens).map Remainder.toList

/-- Scans, validates and parses a line. -/
def parseLine (line : String) : Except ShellError CommandList :=
  match Token.validate (tokenize line) with
  | .error e => .error e
  | .ok () => parseTokens (tokenize line)

end CommandShell
