import CommandShell.Toolbox.Script.Word

/-!
# Lexemes of scripts

A script is a sequence of words, operators and line ends. A backslash before a line feed vanishes
with it, also between double quotes.
-/

namespace CommandShell.Toolbox.Script

inductive Lexeme where
  | word (word : Word)
  | operator (text : String)
  /-- A redirection operator, and the digit right before it. -/
  | redirect (number : Option Char) (text : String)
  | newline
  | ending
  | failure (message : String)
  deriving DecidableEq, Repr

/-- A lexeme and the number of the line in which it ends. -/
structure Placed where
  lexeme : Lexeme
  line : Nat
  deriving DecidableEq, Repr

/-- How far a script was read. -/
structure Reader where
  line : Nat := 1
  /-- The word that is being read, its last part first. -/
  word : Option Word := none
  /-- A double quote is open. -/
  quoted : Bool := false

namespace Reader

def place (reader : Reader) (lexeme : Lexeme) : Placed :=
  { lexeme, line := reader.line }

def push (reader : Reader) (parts : Word) : Reader :=
  { reader with word := some (parts.reverse ++ reader.word.getD []) }

def skipLines (reader : Reader) (text : Raw) : Reader :=
  { reader with line := reader.line + text.count '\n' }

/-- The word that ends here. -/
def ended (reader : Reader) : List Placed :=
  reader.word.toList.map fun word => reader.place (.word word.reverse)

/-- The word and a redirection operator after it. A single digit belongs to the operator. -/
def endedBy (reader : Reader) (text : String) : List Placed :=
  match reader.word with
  | some [.active c] =>
    if c.isDigit then [reader.place (.redirect (some c) text)]
    else reader.ended ++ [reader.place (.redirect none text)]
  | _ => reader.ended ++ [reader.place (.redirect none text)]

end Reader

def operators : List String :=
  ["&&", "||", ";;", ";", "&", "|", "(", ")"]

def redirectOperators : List String :=
  ["<<-", "<<", "<&", "<>", "<", ">>", ">&", ">|", ">"]

/-- The first of some operators that a text starts with. -/
def startOf? (operators : List String) (text : Raw) : Option String :=
  operators.find? fun operator => operator.toList.isPrefixOf text

def unterminatedQuote : Lexeme :=
  .failure "Syntax error: Unterminated quoted string"

def missingBrace : Lexeme :=
  .failure "Syntax error: Missing '\x7d'"

/-- Nothing but the list of parameters stands before the next double quote, so no word is here if
there are none. -/
def isParameterList (text : Raw) : Bool :=
  "$@\"".toList.isPrefixOf text

/-- The lexemes of a script. The first number bounds the steps. -/
def lexemes : Nat → Reader → Raw → List Placed
  | 0, reader, _ => [reader.place .ending]
  | _ + 1, reader, [] =>
    if reader.quoted then [reader.place unterminatedQuote]
    else reader.ended ++ [reader.place .ending]
  | limit + 1, reader, c :: rest =>
    let after (reader : Reader) (rest : Raw) : List Placed := lexemes limit reader rest
    let itself := if reader.quoted then Part.fixed c else .active c
    if c = '\\' then
      match rest with
      | [] => after (reader.push [.fixed '\\']) []
      | '\n' :: rest => after { reader with line := reader.line + 1 } rest
      | d :: rest =>
        if !reader.quoted || isEscapable d then after (reader.push [.fixed d]) rest
        else after (reader.push [.fixed '\\']) (d :: rest)
    else if c = '"' then
      let anchor := if reader.quoted || isParameterList rest then [] else [Part.anchor]
      after { reader.push anchor with quoted := !reader.quoted } rest
    else if c = '$' then
      match readDollar reader.quoted rest with
      | .itself => after (reader.push [itself]) rest
      | .unclosed =>
        [(reader.skipLines rest).place (if reader.quoted then unterminatedQuote else missingBrace)]
      | .parameter part width =>
        after ((reader.push [part]).skipLines (rest.take width)) (rest.drop width)
    else if reader.quoted then after ((reader.push [itself]).skipLines [c]) rest
    else if c = '\'' then
      let body := rest.takeWhile fun c => c ≠ '\''
      let reader := (reader.push (.anchor :: body.map .fixed)).skipLines body
      match rest.drop body.length with
      | [] => [reader.place unterminatedQuote]
      | _ :: rest => after reader rest
    else if c = ' ' || c = '\t' then reader.ended ++ after { line := reader.line } rest
    else if c = '\n' then
      let next : Reader := { line := reader.line + 1 }
      reader.ended ++ next.place .newline :: after next rest
    else if c = '#' && reader.word.isNone then after reader (rest.dropWhile fun c => c ≠ '\n')
    else
      let next : Reader := { line := reader.line }
      match startOf? redirectOperators (c :: rest) with
      | some operator => reader.endedBy operator ++ after next (rest.drop (operator.length - 1))
      | none =>
        match startOf? operators (c :: rest) with
        | some operator =>
          reader.ended ++ next.place (.operator operator) ::
            after next (rest.drop (operator.length - 1))
        | none => after (reader.push [itself]) rest

/-- The lexemes of a script, from its first line on. -/
def readScript (script : Raw) : List Placed :=
  lexemes (script.length + 1) {} script

end CommandShell.Toolbox.Script
