import CommandShell.Feed
import CommandShell.Settings

/-!
# From the command line to the end of a shell

`-c LINE` runs a line and `FILE` runs a script. Without arguments the script is standard input; if
that is a terminal, the shell is interactive and its lines come from a line editor.
-/

namespace CommandShell

/-- A terminal in front of a shell. -/
structure Terminal where
  /-- What the line editor hands over, by its key bindings. -/
  arrivals : EditMode → List Arrival
  /-- Whether it shows colours. -/
  colours : Bool
  /-- The signals that come from it while each of the command lists runs. -/
  alarms : List (List Signal) := []

/-- What a shell is started with. -/
structure Startup where
  arguments : List String
  vars : Variables
  world : World
  /-- The day and the time of day that log records show. -/
  date : String
  clock : String
  process : Nat
  /-- The terminal that standard input is, if it is one. -/
  terminal : Option Terminal := none

/-- What a shell leaves behind. -/
structure Outcome where
  code : Nat
  stdout : Bytes
  stderr : Bytes
  files : FileTree

namespace Startup

def usageStatus : Nat := 2

def notFoundStatus : Nat := 127

/-- The status of a program that a defect stops. -/
def abortedStatus : Nat := 101

/-- Where the lines come from. -/
inductive Script where
  | fixed (source : LineSource)
  | fed (feed : Feed)
  /-- Lines from a terminal, with the prompts it shows and the signals it sends. -/
  | typed (theme : Theme) (source : LineSource) (alarms : List (List Signal))

/-- A shell is interactive if its lines are typed. -/
def Script.isTyped : Script → Bool
  | .typed .. => true
  | _ => false

/-- Runs a shell to its end on the lines of a script. -/
def Script.run (session : Session) : Script → Shell
  | .fixed source => (Shell.start .plain source session).run
  | .fed feed => (Shell.start .plain {} session).runWith feed.loop
  | .typed theme source alarms => { Shell.start theme source session with alarms }.run

/-- The script in a file. A directory can be opened, but not read. -/
def fileScript (world : World) (name : String) : Except IoError Script :=
  match world.files.lookup world.directory name with
  | .error e => .error e
  | .ok (_, .directory) => .ok (.fixed { arrivals := [.failure (.os .isDirectory)] })
  | .ok (_, .program _) => .ok (.fixed { arrivals := [.failure .notUtf8] })
  | .ok (path, .file ..) => .ok (.fed { origin := .file path 0 })
  | .ok (_, .device _) => .ok (.fixed {})

/-- The script on standard input. -/
def inputScript (settings : Settings) : Option Terminal → Script
  | none => .fed { origin := .stdin }
  | some terminal =>
    .typed (.load terminal.colours settings.theme)
      { arrivals := terminal.arrivals settings.editMode } terminal.alarms

/-- The script that arguments ask for, or the message and status of a refusal. -/
def script (settings : Settings) (terminal : Option Terminal) (world : World) :
    List String → Except (String × Nat) Script
  | [] => .ok (inputScript settings terminal)
  | ["-c"] => .error ("-c: option requires an argument", usageStatus)
  | "-c" :: line :: _ => .ok (.fixed (.ofBytes (Bytes.ofText line)))
  | name :: _ =>
    match fileScript world name with
    | .error e => .error (name ++ ": " ++ e.text, notFoundStatus)
    | .ok script => .ok script

/-- The log of a shell: where it is kept and how. -/
structure LogFile where
  path : Path
  journal : Journal

/-- Opens the log, whose directory is made if it is missing. -/
def openLog (startup : Startup) (settings : Settings) (world : World) :
    World × Except IoError LogFile :=
  match world.createDirectories settings.logDirectory with
  | (world, .error e) => (world, .error e)
  | (world, .ok ()) =>
    let name := joinName settings.logDirectory (settings.name ++ "_" ++ startup.date ++ ".log")
    match world.files.openWrite world.directory .append name with
    | .error e => (world, .error e)
    | .ok (files, path, _) =>
      let journal : Journal :=
        { filter := LogFilter.parse settings.logLevel
          shown := settings.logShown
          process := startup.process
          time := startup.date ++ " " ++ startup.clock }
      ({ world with files }, .ok { path, journal })

/-- The world after the log was opened, the log if there is one, and the first events. -/
def prepareLog (startup : Startup) (settings : Settings) :
    World × Option LogFile × Transcript :=
  let loaded := Event.log .debug ("配置加载成功，历史文件 " ++ settings.historyFile)
  match startup.openLog settings startup.world with
  | (world, .error e) =>
    let warning := notice
      ("warning: cannot open log in " ++ settings.logDirectory ++ ": " ++ e.detail)
    (world, none, [warning, loaded])
  | (world, .ok log) =>
    let opened := Event.log .debug ("日志级别设置为: " ++ LogFilter.name log.journal.filter)
    (world, some log, [opened, loaded])

/-- The end of a run, with its log written. -/
def finish (log : Option LogFile) (world : World) (transcript : Transcript) (code : Nat) :
    Outcome :=
  match log with
  | none =>
    { code, stdout := transcript.stdout, stderr := transcript.stderr, files := world.files }
  | some log =>
    { code
      stdout := transcript.stdout
      stderr := transcript.stderrWith log.journal
      files := world.files.append log.path (transcript.logged log.journal) }

/-- The history a shell starts with and what is logged of it. Only a typed script has one. -/
def loadHistory (settings : Settings) (world : World) (script : Script) : History × Transcript :=
  if script.isTyped then History.load world settings.historyFile else ({}, [])

/-- Runs a shell from its start to its end. -/
def run (startup : Startup) : Outcome :=
  let vars := EnvFile.load startup.world startup.vars
  let settings := Settings.ofVariables vars
  let (world, log, opening) := startup.prepareLog settings
  match script settings startup.terminal world startup.arguments with
  | .error (message, code) => finish log world (opening ++ [notice message]) code
  | .ok script =>
    let (history, recalled) := loadHistory settings world script
    let opening := opening ++ recalled ++ vars.skipNotes
    match vars.inherit with
    | .error overflow => finish log world (opening ++ [notice overflow.message]) abortedStatus
    | .ok environment =>
      let session : Session :=
        { state := { environment, interactive := script.isTyped, history }
          world := { world with temporary := vars.temporaryDirectory } }
      let shell := script.run (session.emit opening)
      finish log shell.session.world shell.session.transcript (shell.status % 256).toNat

end Startup

end CommandShell
