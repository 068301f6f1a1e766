import CommandShell.Program
import CommandShell.Text.Numeral
import CommandShell.Toolbox.Script.Command
import CommandShell.Toolbox.Script.Echo
import CommandShell.Toolbox.Script.Expand

/-!
# Running scripts

The commands of a script run one after the other. There are few of them: `:`, `true`, `false`,
`echo`, `exit` and `kill`; all others are not found.
-/

namespace CommandShell.Toolbox.Script

/-- A script at work. -/
structure Machine where
  scope : Scope
  /-- What was written, the last text first. -/
  output : List Bytes := []
  errors : List Bytes := []
  /-- The error that every write to standard output meets. -/
  writeError : Option Errno := none
  /-- The lines that are shown when they are read, and the number of those before them. -/
  unshown : List Raw := []
  shown : Nat := 0
  /-- How the script ended. -/
  termination : Option Termination := none

/-- Where a stream of a command goes. -/
inductive Outlet where
  | output
  | errors
  | file (path : Path)
  | device (device : Device)
  deriving DecidableEq, Repr

/-- The two output streams of a command. -/
structure Outlets where
  output : Outlet := .output
  errors : Outlet := .errors

namespace Machine

def setStatus (machine : Machine) (status : Nat) : Machine :=
  { machine with scope := { machine.scope with status } }

def finish (machine : Machine) (status : Int) : Machine :=
  { machine with termination := some (.ofStatus status) }

/-- Writes bytes and tells whether they could be written. -/
def write (machine : Machine) (outlet : Outlet) (bytes : Bytes) : Machine × Bool :=
  if bytes.isEmpty then (machine, true)
  else
    match outlet with
    | .output =>
      if machine.writeError.isSome then (machine, false)
      else ({ machine with output := bytes :: machine.output }, true)
    | .errors => ({ machine with errors := bytes :: machine.errors }, true)
    | .file path =>
      let files := machine.scope.files.append path bytes
      ({ machine with scope := { machine.scope with files } }, true)
    | .device device => (machine, device = .null)

/-- Says something about a line and sets the status. -/
def complain (machine : Machine) (outlet : Outlet) (line : Nat) (text : Raw) (status : Nat) :
    Machine :=
  let message := machine.scope.name ++ (": " ++ toString line ++ ": ").toList ++ text ++ ['\n']
  (machine.write outlet (Raw.toBytes message)).1.setStatus status

/-- Says something about a line and ends the script. -/
def abort (machine : Machine) (outlet : Outlet) (line : Nat) (text : Raw) : Machine :=
  (machine.complain outlet line text 2).finish 2

end Machine

/-- Why a command's redirections could not be made. -/
inductive Refusal where
  /-- A file could not be opened. -/
  | stream (message : Raw)
  /-- A word could not be expanded. -/
  | word (message : Raw)

/-- What is said about a file that could not be opened; `missing` stands for one that is not
there. -/
def openComplaint (missing : String) (cause : IoError) : Raw :=
  let errno := cause.errno
  if errno = .noEntry || errno = .notDirectory then missing.toList
  else Raw.ofText errno.systemDescription

namespace Outlets

/-- Binds a stream. Only the two output streams are looked at. -/
def bind (outlets : Outlets) (stream : Nat) (outlet : Outlet) : Outlets :=
  match stream with
  | 1 => { outlets with output := outlet }
  | 2 => { outlets with errors := outlet }
  | _ => outlets

/-- Makes one redirection. -/
def redirect (outlets : Outlets) (scope : Scope) (redirect : Redirect) :
    Except Refusal (Outlets × Scope) :=
  match scope.expandText redirect.target with
  | .error message => .error (.word message)
  | .ok (target, scope) =>
    let name := Raw.toText target
    let write (mode : FileTree.WriteMode) : Except Refusal (Outlets × Scope) :=
      match scope.files.openWrite scope.directory mode name with
      | .error cause =>
        .error (.stream
          ("cannot create ".toList ++ target ++ ": ".toList ++
            openComplaint "Directory nonexistent" cause))
      | .ok (files, path, node) =>
        let outlet := match node with
          | .device device => Outlet.device device
          | _ => .file path
        .ok (outlets.bind redirect.stream outlet, { scope with files })
    match redirect.direction with
    | .write => write .truncate
    | .append => write .append
    | .read =>
      match scope.files.lookup scope.directory name with
      | .error cause =>
        .error (.stream
          ("cannot open ".toList ++ target ++ ": ".toList ++ openComplaint "No such file" cause))
      | .ok _ => .ok (outlets, scope)
    | .copy =>
      match target with
      | ['0'] | ['-'] => .ok (outlets, scope)
      | ['1'] => .ok (outlets.bind redirect.stream outlets.output, scope)
      | ['2'] => .ok (outlets.bind redirect.stream outlets.errors, scope)
      | [c] =>
        if c.isDigit then .error (.stream (target ++ ": Bad file descriptor".toList))
        else .error (.word "Syntax error: Bad fd number".toList)
      | _ => .error (.word "Syntax error: Bad fd number".toList)

/-- Makes redirections in order, up to the first that fails. -/
def redirectAll (outlets : Outlets) (scope : Scope) :
    List Redirect → Scope × Outlets × Option Refusal
  | [] => (scope, outlets, none)
  | redirect :: rest =>
    match outlets.redirect scope redirect with
    | .error refusal => (scope, outlets, some refusal)
    | .ok (outlets, scope) => outlets.redirectAll scope rest

end Outlets

/-- The name and the value of a word that sets a variable. -/
def assignment? (word : Word) : Option (Raw × Word) :=
  let name := word.takeWhile fun
    | .active c => isNameChar c
    | _ => false
  match name, word.drop name.length with
  | .active c :: _, .active '=' :: value =>
    if isNameStart c then
      some (name.filterMap fun
        | .active c => some c
        | _ => none, value)
    else none
  | _, _ => none

/-- The assignments before a command, and its words. -/
def splitAssignments : List Word → List (Raw × Word) × List Word
  | [] => ([], [])
  | word :: rest =>
    match assignment? word with
    | none => ([], word :: rest)
    | some setting =>
      let (settings, words) := splitAssignments rest
      (setting :: settings, words)

/-- Sets variables, and gives what is shown of it. -/
def setAll (scope : Scope) : List (Raw × Word) → Except Raw (List Raw × Scope)
  | [] => .ok ([], scope)
  | (name, word) :: rest =>
    match scope.expandText word with
    | .error e => .error e
    | .ok (value, scope) =>
      (setAll (scope.setVariable name value) rest).map fun (shown, scope) =>
        ((name ++ '=' :: value) :: shown, scope)

/-- The white space that may surround a number. -/
def isSpace (c : Char) : Bool :=
  c = ' ' || ('\t' ≤ c && c ≤ '\r')

/-- The status that an argument of `exit` stands for. White space around it does not count. -/
def exitStatus? (word : Raw) : Option Int :=
  let digits := ((word.dropWhile isSpace).reverse.dropWhile isSpace).reverse
  (Text.signed? digits).filter fun n => 0 ≤ n && n ≤ 2147483647

/-- The signal that a name or number stands for; zero stands for none. -/
def signal? (name : Raw) : Option (Option Signal) :=
  match Text.unsigned? name with
  | some 0 => some none
  | some n => if h : 1 ≤ n ∧ n ≤ 64 then some (some ⟨n, h.1, h.2⟩) else none
  | none => (Signal.named.lookup (String.ofList (name.map Char.toUpper))).map some

namespace Machine

/-- Sends a signal to the script itself. -/
def receive (machine : Machine) : Option Signal → Machine
  | none => machine.setStatus 0
  | some signal => { machine with termination := some (.killed signal) }

/-- Runs `kill`. -/
def runKill (machine : Machine) (outlets : Outlets) (line : Nat) (words : List Raw) : Machine :=
  let usage := "kill: Usage: kill [-s sigspec | -signum | -sigspec] [pid | job]... or\n" ++
    "kill -l [exitstatus]"
  let send (name : Raw) (targets : List Raw) : Machine :=
    match signal? name, targets with
    | some signal, ['$', '$'] :: _ => machine.receive signal
    | some _, target :: _ =>
      machine.complain outlets.errors line ("kill: Illegal number: ".toList ++ target) 2
    | some _, [] => machine.complain outlets.errors line usage.toList 2
    | none, _ =>
      machine.complain outlets.errors line ("kill: Illegal option -".toList ++ name.take 1) 2
  match words with
  | ['-', 's'] :: name :: targets => send name targets
  | ('-' :: name) :: targets => send name targets
  | targets => send "TERM".toList targets

/-- What is said about a command that is none of the known ones. -/
def runUnknown (machine : Machine) (outlets : Outlets) (line : Nat) (name : Raw) : Machine :=
  let denied := name ++ ": Permission denied".toList
  let scope := machine.scope
  if name.isEmpty then machine.complain outlets.errors line denied 127
  else if name.contains '/' && (scope.files.lookup scope.directory (Raw.toText name)).isOk then
    machine.complain outlets.errors line denied 126
  else machine.complain outlets.errors line (name ++ ": not found".toList) 127

/-- Runs a command with its streams bound. -/
def runWords (machine : Machine) (outlets : Outlets) (line : Nat) (name : Raw)
    (words : List Raw) : Machine :=
  match String.ofList name, words with
  | ":", _ | "true", _ => machine.setStatus 0
  | "false", _ => machine.setStatus 1
  | "echo", words =>
    let (machine, written) := machine.write outlets.output (echoed words)
    if written then machine.setStatus 0
    else machine.complain outlets.errors line "echo: echo: I/O error".toList 1
  | "exit", [] => machine.finish machine.scope.status
  | "exit", code :: _ =>
    match exitStatus? code with
    | some status => machine.finish status
    | none => machine.abort outlets.errors line ("exit: Illegal number: ".toList ++ code)
  | "kill", words => machine.runKill outlets line words
  | _, _ => machine.runUnknown outlets line name

/-- These commands change the script itself. -/
def isSpecialCommand (name : Raw) : Bool :=
  name = [':'] || name = "exit".toList

/-- Shows a command before it runs, if that is asked for. -/
def trace (machine : Machine) (words : List Raw) : Machine :=
  if machine.scope.options.contains 'x' then
    (machine.write .errors (Raw.toBytes ("+ ".toList ++ [' '].intercalate words ++ ['\n']))).1
  else machine

/-- Runs a simple command. -/
def runSimple (machine : Machine) (command : Simple) : Machine :=
  let (settings, words) := splitAssignments command.words
  match machine.scope.expandFields words with
  | .error message => machine.abort .errors command.line message
  | .ok (words, scope) =>
    let isSpecial := words.head?.any isSpecialCommand
    let machine := { machine with scope }
    match Outlets.redirectAll {} scope command.redirects with
    | (scope, _, some (.word message)) => { machine with scope }.abort .errors command.line message
    | (scope, outlets, some (.stream message)) =>
      let machine := { machine with scope }
      if isSpecial then machine.abort outlets.errors command.line message
      else machine.complain outlets.errors command.line message 2
    | (scope, outlets, none) =>
      match setAll scope settings with
      | .error message => { machine with scope }.abort outlets.errors command.line message
      | .ok (shown, assigned) =>
        let kept := if isSpecial || words.isEmpty then assigned else scope
        let machine := { machine with scope := kept }.trace (shown ++ words)
        match words with
        | [] => machine.setStatus 0
        | name :: words => machine.runWords outlets command.line name words

/-- Runs commands one after the other. -/
def runSteps (machine : Machine) : List Step → Machine
  | [] => machine
  | step :: rest =>
    if machine.termination.isSome then machine
    else
      let isDue := match step.link with
        | .always => true
        | .onSuccess => machine.scope.status = 0
        | .onFailure => machine.scope.status ≠ 0
      if isDue then
        let machine := machine.runSimple step.command
        let isLast := rest.head?.all fun next => next.link = .always
        if isLast && machine.scope.status ≠ 0 && machine.scope.options.contains 'e' &&
            machine.termination.isNone then
          machine.finish machine.scope.status
        else machine.runSteps rest
      else machine.runSteps rest

/-- Shows the lines of the script up to a number. -/
def showLines (machine : Machine) (last : Nat) : Machine :=
  let count := last - machine.shown
  let machine := (machine.write .errors (Raw.toBytes (machine.unshown.take count).flatten)).1
  { machine with unshown := machine.unshown.drop count, shown := max last machine.shown }

/-- Runs the lines of a script. -/
def runLines (machine : Machine) : List Parsed → Machine
  | [] => machine
  | line :: rest =>
    if machine.termination.isSome then machine
    else
      let machine := machine.showLines line.last
      match line.steps with
      | .error fault => machine.abort .errors fault.line (Raw.ofText fault.message)
      | .ok steps =>
        if machine.scope.options.contains 'n' then machine.runLines rest
        else (machine.runSteps steps).runLines rest

/-- What a script leaves behind. -/
def completion (machine : Machine) : Completion where
  output := machine.output.reverse.flatten
  errors := machine.errors.reverse.flatten
  files := machine.scope.files
  termination := machine.termination.getD (.ofStatus machine.scope.status)

end Machine

end CommandShell.Toolbox.Script
