import CommandShell.Toolbox.Script.Lexeme

/-!
# Commands of scripts

A script is a sequence of lines, each of them a list of simple commands. A line that cannot be
understood ends the script, but the lines before it run.
-/

namespace CommandShell.Toolbox.Script

/-- What a redirection does with a stream. -/
inductive Direction where
  | read
  | write
  | append
  /-- The stream becomes the same as another one. -/
  | copy
  deriving DecidableEq, Repr

structure Redirect where
  stream : Nat
  direction : Direction
  target : Word
  deriving DecidableEq, Repr

/-- A simple command and the number of the line it starts in. -/
structure Simple where
  line : Nat
  words : List Word := []
  redirects : List Redirect := []
  deriving DecidableEq, Repr

/-- When a command runs after the one before it. -/
inductive Link where
  | always
  | onSuccess
  | onFailure
  deriving DecidableEq, Repr

structure Step where
  link : Link
  command : Simple
  deriving DecidableEq, Repr

/-- What is wrong with a line. -/
structure Fault where
  line : Nat
  message : String
  deriving DecidableEq, Repr

/-- A line that is being read; its lists have the last element first. -/
structure Building where
  steps : List Step := []
  link : Link := .always
  command : Option Simple := none
  /-- A redirection that still needs its target. -/
  redirect : Option (Nat × Direction) := none

namespace Building

/-- The command that is being read. -/
def current (building : Building) (line : Nat) : Simple :=
  building.command.getD { line }

def addWord (building : Building) (line : Nat) (word : Word) : Building :=
  let command := building.current line
  match building.redirect with
  | some (stream, direction) =>
    let redirects := { stream, direction, target := word } :: command.redirects
    { building with command := some { command with redirects }, redirect := none }
  | none => { building with command := some { command with words := word :: command.words } }

/-- Ends the command that is being read. -/
def addStep (building : Building) (link : Link) : Building :=
  match building.command with
  | none => { building with link }
  | some command =>
    let command :=
      { command with words := command.words.reverse, redirects := command.redirects.reverse }
    { steps := { link := building.link, command } :: building.steps, link }

def finished (building : Building) : List Step :=
  (building.addStep .always).steps.reverse

/-- No command has been read, though one has to follow. -/
def isOpen (building : Building) : Bool :=
  building.command.isNone && building.link ≠ .always

end Building

/-- The stream and the direction of a redirection operator. -/
def direction? (number : Option Char) (text : String) : Option (Nat × Direction) :=
  let stream (default : Nat) : Nat := number.elim default fun c => c.toNat - '0'.toNat
  match text with
  | "<" => some (stream 0, .read)
  | "<&" => some (stream 0, .copy)
  | ">" | ">|" => some (stream 1, .write)
  | ">>" => some (stream 1, .append)
  | ">&" => some (stream 1, .copy)
  | _ => none

/-- How an operator goes on with a list of commands. -/
def link? (operator : String) : Option Link :=
  match operator with
  | ";" => some .always
  | "&&" => some .onSuccess
  | "||" => some .onFailure
  | _ => none

/-- A line of commands, or what is wrong with it, and the number of the last line of the script that
was read for it. -/
structure Parsed where
  last : Nat
  steps : Except Fault (List Step)

def unexpected (last line : Nat) (what : String) : Parsed where
  last
  steps := .error { line, message := "Syntax error: " ++ what ++ " unexpected" }

/-- The lines of a script, after a part of one. -/
def parseLines (building : Building) : List Placed → List Parsed
  | [] => []
  | { lexeme, line } :: rest =>
    match lexeme with
    | .failure message => [{ last := line, steps := .error { line, message } }]
    | .word word => parseLines (building.addWord line word) rest
    | .newline =>
      if building.redirect.isSome then [unexpected (line - 1) line "newline"]
      else if building.isOpen then parseLines building rest
      else { last := line - 1, steps := .ok building.finished } :: parseLines {} rest
    | .ending =>
      if building.redirect.isSome || building.isOpen then [unexpected line line "end of file"]
      else [{ last := line, steps := .ok building.finished }]
    | .redirect number text =>
      if building.redirect.isSome then [unexpected line line "redirection"]
      else
        match direction? number text with
        | none => [unexpected line line "redirection"]
        | some redirect =>
          let command := building.current line
          parseLines { building with command := some command, redirect := some redirect } rest
    | .operator text =>
      let refused := [unexpected line line ("\"" ++ text ++ "\"")]
      if building.redirect.isSome || building.command.isNone then refused
      else
        match link? text with
        | none => refused
        | some link => parseLines (building.addStep link) rest

/-- The lines of a script. -/
def linesOf (script : Raw) : List Parsed :=
  parseLines {} (readScript script)

end CommandShell.Toolbox.Script
