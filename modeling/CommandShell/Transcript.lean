import CommandShell.Bytes
import CommandShell.Error

/-!
# Transcripts

Everything a shell and its commands write, in order: standard output, standard error and the log.
The log is kept apart from the two streams; whether a record is shown is decided when the
transcript is rendered.
-/

namespace CommandShell

/-- The name a shell puts in front of its messages. -/
def shellName : String := "minishell"

/-- Levels of log records, the most severe first. -/
inductive LogLevel where
  | error
  | warn
  | info
  | debug
  | trace
  deriving DecidableEq, Repr

namespace LogLevel

def name : LogLevel → String
  | .error => "ERROR"
  | .warn => "WARN"
  | .info => "INFO"
  | .debug => "DEBUG"
  | .trace => "TRACE"

def severity : LogLevel → Nat
  | .error => 1
  | .warn => 2
  | .info => 3
  | .debug => 4
  | .trace => 5

end LogLevel

/-- The least severe level that is recorded; `none` records nothing. -/
abbrev LogFilter := Option LogLevel

namespace LogFilter

def name (filter : LogFilter) : String :=
  (filter.map LogLevel.name).getD "OFF"

def admits (filter : LogFilter) (level : LogLevel) : Bool :=
  filter.any fun limit => level.severity ≤ limit.severity

/-- Reads the name of a filter in any case; an unknown name stands for warnings. -/
def parse (name : String) : LogFilter :=
  match String.ofList (name.toList.map Char.toLower) with
  | "off" => none
  | "error" => some .error
  | "info" => some .info
  | "debug" => some .debug
  | "trace" => some .trace
  | _ => some .warn

end LogFilter

inductive Event where
  | output (bytes : Bytes)
  | diagnostic (bytes : Bytes)
  | log (level : LogLevel) (message : String)
  deriving DecidableEq, Repr

abbrev Transcript := List Event

/-- A line on standard error, preceded by the shell's name. -/
def notice (message : String) : Event :=
  .diagnostic (Bytes.ofText (shellName ++ ": " ++ message ++ "\n"))

/-- An error is logged and then shown. -/
def ShellError.report (error : ShellError) : Transcript :=
  [.log (if error.isSyntactic then .warn else .error) error.message, notice error.message]

/-- How log records are kept. -/
structure Journal where
  filter : LogFilter
  /-- Records are also shown on standard error. -/
  shown : Bool
  /-- The process that writes the records. -/
  process : Nat
  /-- Date and time of the records. -/
  time : String

namespace Journal

def line (journal : Journal) (level : LogLevel) (message : String) : String :=
  "[PID:" ++ toString journal.process ++ "][" ++ level.name ++ "] " ++ journal.time ++ " - " ++
    message ++ "\n"

/-- The text of a record, empty if the filter drops it. -/
def entry (journal : Journal) (level : LogLevel) (message : String) : Bytes :=
  if LogFilter.admits journal.filter level then Bytes.ofText (journal.line level message) else []

end Journal

namespace Transcript

/-- The bytes on standard output. -/
def stdout (transcript : Transcript) : Bytes :=
  transcript.flatMap fun
    | .output bytes => bytes
    | _ => []

/-- The bytes on standard error. -/
def stderr (transcript : Transcript) : Bytes :=
  transcript.flatMap fun
    | .diagnostic bytes => bytes
    | _ => []

/-- The contents of the log. -/
def logged (journal : Journal) (transcript : Transcript) : Bytes :=
  transcript.flatMap fun
    | .log level message => journal.entry level message
    | _ => []

/-- The bytes on standard error with the records that a journal shows there. -/
def stderrWith (journal : Journal) (transcript : Transcript) : Bytes :=
  transcript.flatMap fun
    | .diagnostic bytes => bytes
    | .log level message => if journal.shown then journal.entry level message else []
    | .output _ => []

end Transcript

end CommandShell
