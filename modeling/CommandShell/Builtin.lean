import CommandShell.Session
import CommandShell.Text.Shown
import CommandShell.Text.Split
import CommandShell.Writer

/-!
# Builtin commands

A builtin works on a session and writes to a writer. When a write fails it stops there, and the
failure is reported once; what it changed before stays changed.
-/

namespace CommandShell

inductive Builtin where
  | echo
  | changeDirectory
  | printDirectory
  | exportNames
  | unsetNames
  | printEnvironment
  | exit
  | history
  deriving DecidableEq, Repr

namespace Builtin

def name : Builtin → String
  | .echo => "echo"
  | .changeDirectory => "cd"
  | .printDirectory => "pwd"
  | .exportNames => "export"
  | .unsetNames => "unset"
  | .printEnvironment => "env"
  | .exit => "exit"
  | .history => "history"

def all : List Builtin :=
  [.echo, .changeDirectory, .printDirectory, .exportNames, .unsetNames, .printEnvironment, .exit,
    .history]

def ofName? (name : String) : Option Builtin :=
  all.find? fun builtin => builtin.name = name

/-- The outcome of a builtin: a status, or the write that failed. -/
structure Outcome where
  session : Session
  writer : Writer
  result : Except IoError Int

/-- Reports a message and ends with status one. -/
def fail (session : Session) (writer : Writer) (message : String) : Outcome where
  session := session.report (.builtin message)
  writer
  result := .ok 1

/-- Ends successfully unless the writing failed. -/
def written (session : Session) (write : Except IoError Unit × Writer) : Outcome where
  session
  writer := write.2
  result := write.1.map fun _ => 0

/-- A flag that suppresses the line feed: a dash and one or more `n`. -/
def isNoFeedFlag (arg : String) : Bool :=
  match arg.toList with
  | '-' :: 'n' :: rest => rest.all fun c => c = 'n'
  | _ => false

def echoArgs (args : List String) (session : Session) (writer : Writer) : Outcome :=
  let words := args.dropWhile isNoFeedFlag
  let text := writer.writeText (" ".intercalate words)
  match text.1 with
  | .error _ => written session text
  | .ok () =>
    if (args.head?.any isNoFeedFlag) then written session text
    else written session (text.2.writeText "\n")

/-- A leading `~` stands for the home directory, if there is one. As `shellexpand` documents it for
`tilde_with_context`, that is so before a slash and at the end; the home of another user, as in
`~name`, is not looked for. -/
def expandTilde (home : Option String) (directory : String) : String :=
  match directory.toList, home with
  | ['~'], some home => home
  | '~' :: '/' :: rest, some home => home ++ "/" ++ String.ofList rest
  | _, _ => directory

/-- The directory that the arguments of `cd` name, and whether it is printed. -/
def directoryTarget (environment : Environment) : List String → Except String (String × Bool)
  | [] =>
    match environment.get? "HOME" with
    | some home => .ok (home, false)
    | none => .error "cd: HOME not set"
  | ["-"] =>
    match environment.get? "OLDPWD" with
    | some old => .ok (old, true)
    | none => .error "cd: OLDPWD not set"
  | [directory] => .ok (expandTilde (environment.get? "HOME") directory, false)
  | _ => .error "cd: too many arguments"

/-- The directory a shell says it is in: `PWD`, or else where it is. -/
def previousDirectory (session : Session) : Option String :=
  match session.state.environment.get? "PWD" with
  | some directory => some directory
  | none => session.world.currentDirectory.toOption

/-- `OLDPWD` and `PWD` after a change to `target`. -/
def recordDirectories (environment : Environment) (previous : Option String) (world : World)
    (target : String) : Environment :=
  let environment :=
    match previous with
    | some previous => environment.set "OLDPWD" previous
    | none => environment
  match world.currentDirectory with
  | .ok directory => environment.set "PWD" directory
  | .error _ => environment.set "PWD" target

def changeDirectoryTo (args : List String) (session : Session) (writer : Writer) : Outcome :=
  match directoryTarget session.state.environment args with
  | .error message => fail session writer message
  | .ok (target, printed) =>
    match session.world.changeDirectory target with
    | .error cause => fail session writer ("cd: " ++ target ++ ": " ++ cause.text)
    | .ok world =>
      let environment := recordDirectories session.state.environment (previousDirectory session)
        world target
      let session := { session.setEnvironment environment with world }
      if printed then written session (writer.writeText (target ++ "\n"))
      else { session, writer, result := .ok 0 }

def printDirectoryOf (session : Session) (writer : Writer) : Outcome :=
  match session.world.currentDirectory with
  | .ok directory => written session (writer.writeText (directory ++ "\n"))
  | .error cause => fail session writer ("pwd: " ++ cause.text)

/-- A value between double quotes that reads back as itself. -/
def quoteValue (value : String) : String :=
  "\"" ++ String.ofList (value.toList.flatMap fun c =>
    if c = '"' || c = '\\' || c = '$' || c = '`' then ['\\', c] else [c]) ++ "\""

/-- The line that `export` lists for a binding. -/
def exportLine (binding : Binding) : String :=
  match binding with
  | (name, some value) => "declare -x " ++ name ++ "=" ++ quoteValue value
  | (name, none) => "declare -x " ++ name

/-- One argument of `export`: a name, with a value after the first `=`. -/
def exportOne (environment : Environment) (arg : String) : Option Environment :=
  match Text.splitFirst? '=' arg with
  | some (name, value) => if isIdentifier name then some (environment.set name value) else none
  | none => if isIdentifier arg then some (environment.declare arg) else none

def unsetOne (environment : Environment) (arg : String) : Option Environment :=
  if isIdentifier arg then some (environment.unset arg) else none

/-- Applies a change for each argument; those that are not valid are reported and skipped. -/
def changeNames (command : String) (change : Environment → String → Option Environment) :
    Session → List String → Session × Int
  | session, [] => (session, 0)
  | session, arg :: rest =>
    match change session.state.environment arg with
    | some environment => changeNames command change (session.setEnvironment environment) rest
    | none =>
      let message := command ++ ": `" ++ arg ++ "': not a valid identifier"
      let after := changeNames command change (session.report (.builtin message)) rest
      (after.1, 1)

def exportArgs (args : List String) (session : Session) (writer : Writer) : Outcome :=
  if args.isEmpty then
    written session (writer.writeLines (session.state.environment.bindings.map exportLine))
  else
    let changed := changeNames "export" exportOne session args
    { session := changed.1, writer, result := .ok changed.2 }

def unsetArgs (args : List String) (session : Session) (writer : Writer) : Outcome :=
  let changed := changeNames "unset" unsetOne session args
  { session := changed.1, writer, result := .ok changed.2 }

def listEnvironment (args : List String) (session : Session) (writer : Writer) : Outcome :=
  if args.isEmpty then written session (writer.writeLines session.state.environment.toStrings)
  else fail session writer "env: too many arguments"

/-- The status that an argument of `exit` stands for. -/
def exitCode? (arg : String) : Option Int :=
  (Text.int64? (Text.trim arg)).map fun code => code % 256

def exitWith (args : List String) (session : Session) (writer : Writer) : Outcome :=
  let session :=
    if session.state.interactive then session.emit [.diagnostic (Bytes.ofText "exit\n")]
    else session
  match args with
  | [] => { session := session.leave, writer, result := .ok session.state.lastStatus }
  | arg :: others =>
    match exitCode? arg with
    | none =>
      let message := "exit: " ++ arg ++ ": numeric argument required"
      { session := (session.report (.builtin message)).leave, writer, result := .ok 255 }
    | some code =>
      if others.isEmpty then { session := session.leave, writer, result := .ok code }
      else fail session writer "exit: too many arguments"

/-- The lines that `history` prints: a number and an entry. -/
def historyLines (entries : List String) : List String :=
  entries.zipIdx.map fun entry =>
    Text.padLeft 5 (toString (entry.2 + 1)) ++ "  " ++ entry.1

def listHistory (session : Session) (writer : Writer) : Outcome :=
  written session (writer.writeLines (historyLines session.state.history.entries))

/-- The work of a builtin. -/
def perform (builtin : Builtin) (args : List String) (session : Session) (writer : Writer) :
    Outcome :=
  match builtin with
  | .echo => echoArgs args session writer
  | .changeDirectory => changeDirectoryTo args session writer
  | .printDirectory => printDirectoryOf session writer
  | .exportNames => exportArgs args session writer
  | .unsetNames => unsetArgs args session writer
  | .printEnvironment => listEnvironment args session writer
  | .exit => exitWith args session writer
  | .history => listHistory session writer

/-- A finished builtin. -/
structure Run where
  session : Session
  writer : Writer
  status : Int

/-- Runs a builtin; a failed write is reported and gives status one. -/
def run (builtin : Builtin) (args : List String) (session : Session) (writer : Writer) : Run :=
  let session := session.log .debug
    ("执行内建命令: " ++ builtin.name ++ " " ++ Text.showTexts args)
  let outcome := builtin.perform args session writer
  match outcome.result with
  | .ok status => { session := outcome.session, writer := outcome.writer, status }
  | .error cause =>
    let message := builtin.name ++ ": write error: " ++ cause.text
    { session := outcome.session.emit [notice message], writer := outcome.writer, status := 1 }

end Builtin

end CommandShell
