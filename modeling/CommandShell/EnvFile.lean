import CommandShell.Text.Alphanumeric
import CommandShell.Variables
import CommandShell.World

/-!
# Variables from a file

A file of assignments, one on a line, can provide variables that a process was not started with.
It is looked for in the working directory and then in the directories above it, up to the first that
cannot be looked into. Reading stops at the first line that cannot be understood; the assignments
before it count.

The grammar of a line is that of the `dotenv` library, version 0.15: an optional `export`, a name
made of letters, digits, `_` and `.`, quotes, escapes, `$name` and `${name}`, and comments.
Variables that are set win over the file.
-/

namespace CommandShell.EnvFile

def fileName : String := ".env.development"

/-- How far the value of an assignment was read. A name has its last character first. -/
inductive ValueState where
  | text (quoted : Bool)
  | single
  | escaped (quoted : Bool)
  | name (quoted : Bool) (read : List Char)
  | braced (quoted : Bool) (read : List Char)
  | closed
  deriving DecidableEq, Repr

/-- The character that an escaped one stands for. -/
def escapedChar? (c : Char) : Option Char :=
  if c = '\\' || c = '\'' || c = '"' || c = '$' || c = ' ' then some c
  else if c = 'n' then some '\n'
  else none

/-- A blank between a value and a comment. -/
def isGap (c : Char) : Bool :=
  c = ' ' || c = '\t'

/-- Reads a value; `lookup` gives what a name stands for. -/
def readValue (lookup : String → String) : ValueState → List Char → Option (List Char)
  | .text quoted, [] => if quoted then none else some []
  | .escaped quoted, [] => if quoted then none else some []
  | .name quoted read, [] =>
    if quoted then none else some (lookup (String.ofList read.reverse)).toList
  | .closed, [] => some []
  | .single, [] | .braced .., [] => none
  | .closed, c :: rest =>
    if isGap c then readValue lookup .closed rest else if c = '#' then some [] else none
  | .escaped quoted, c :: rest =>
    match escapedChar? c with
    | some c => (readValue lookup (.text quoted) rest).map (c :: ·)
    | none => none
  | .single, c :: rest =>
    if c = '\'' then readValue lookup (.text false) rest
    else (readValue lookup .single rest).map (c :: ·)
  | .name quoted read, c :: rest =>
    if Text.isAlphanumeric c then readValue lookup (.name quoted (c :: read)) rest
    else if c = '\x7b' && read.isEmpty then readValue lookup (.braced quoted []) rest
    else
      let following :=
        if c = '$' then readValue lookup (.name quoted []) rest
        else (readValue lookup (.text quoted) rest).map (c :: ·)
      following.map ((lookup (String.ofList read.reverse)).toList ++ ·)
  | .braced quoted read, c :: rest =>
    if c = '\x7d' then
      (readValue lookup (.text quoted) rest).map
        ((lookup (String.ofList read.reverse)).toList ++ ·)
    else readValue lookup (.braced quoted (c :: read)) rest
  | .text quoted, c :: rest =>
    if c = '$' then readValue lookup (.name quoted []) rest
    else if c = '\\' then readValue lookup (.escaped quoted) rest
    else if c = '"' then readValue lookup (.text !quoted) rest
    else if quoted then (readValue lookup (.text true) rest).map (c :: ·)
    else if c = '\'' then readValue lookup .single rest
    else if isGap c then readValue lookup .closed rest
    else (readValue lookup (.text false) rest).map (c :: ·)

/-- What a line says. -/
inductive Line where
  | blank
  | assignment (name value : String)
  | malformed
  deriving DecidableEq, Repr

/-- Nothing but a comment follows. -/
def isDone (text : List Char) : Bool :=
  text.isEmpty || text.head? = some '#'

/-- The name at the start of a text, and what follows it and the white space after it. -/
def readName? (text : List Char) : Option (List Char × List Char) :=
  if text.head?.any isNameStart then
    let isPart (c : Char) : Bool := c.isAlphanum || c = '_' || c = '.'
    some (text.takeWhile isPart, (text.dropWhile isPart).dropWhile Text.isWhiteSpace)
  else none

/-- The value after an equals sign. -/
def readAssigned (lookup : String → String) (name : List Char) : List Char → Line
  | '=' :: rest =>
    let text := rest.dropWhile Text.isWhiteSpace
    if isDone text then .assignment (String.ofList name) ""
    else
      match readValue lookup (.text false) text with
      | some value => .assignment (String.ofList name) (String.ofList value)
      | none => .malformed
  | _ => .malformed

/-- Reads a line. The word `export` may stand before the name. -/
def readLine (lookup : String → String) (line : String) : Line :=
  let text := (Text.trim line).toList
  if isDone text then .blank
  else
    match readName? text with
    | none => .malformed
    | some (name, rest) =>
      if name = "export".toList && rest.head? ≠ some '=' then
        match readName? rest with
        | none => .malformed
        | some (name, rest) => readAssigned lookup name rest
      else readAssigned lookup name rest

/-- Provides the variables of the lines of a file. -/
def provideLines : Variables → List (Option String) → Variables
  | vars, [] | vars, none :: _ => vars
  | vars, some line :: rest =>
    match readLine (fun name => (vars.text? name).getD "") line with
    | .blank => provideLines vars rest
    | .assignment name value => provideLines (vars.provide name value) rest
    | .malformed => vars

/-- The first regular file of the name, the directories given from the inside out. -/
def find? (files : FileTree) : List Path → Option Bytes
  | [] => none
  | directory :: above =>
    match files.lookup directory (directory.child fileName).text with
    | .ok (_, .file content _) => some content
    | .ok _ => find? files above
    | .error cause => if cause = .os .noEntry then find? files above else none

/-- A directory and those above it. -/
def ancestors (directory : Path) : List Path :=
  (List.range (directory.length + 1)).reverse.map directory.take

/-- Provides the variables of the file that the working directory sees. -/
def load (world : World) (vars : Variables) : Variables :=
  match world.currentDirectory with
  | .error _ => vars
  | .ok _ =>
    match find? world.files (ancestors world.directory) with
    | none => vars
    | some content => provideLines vars content.lines

end CommandShell.EnvFile
