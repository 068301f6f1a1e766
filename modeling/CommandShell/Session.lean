import CommandShell.Environment
import CommandShell.History
import CommandShell.World

/-!
# Sessions

A session is a running shell: its state, the world it runs in and what was written so far.
-/

namespace CommandShell

structure ShellState where
  environment : Environment := {}
  lastStatus : Int := 0
  shouldExit : Bool := false
  interactive : Bool := false
  history : History := {}

namespace ShellState

/-- A command of a pipeline is not the interactive shell: leaving it leaves only the command. -/
def enterChild (state : ShellState) : ShellState :=
  { state with interactive := false, shouldExit := false }

end ShellState

structure Session where
  state : ShellState
  world : World
  /-- What was written so far, the last event first. -/
  recent : List Event := []

namespace Session

/-- What was written so far. -/
def transcript (session : Session) : Transcript :=
  session.recent.reverse

/-- Adds to the transcript. -/
def emit (session : Session) (events : Transcript) : Session :=
  { session with recent := events.reverse ++ session.recent }

@[simp] theorem transcript_emit (session : Session) (events : Transcript) :
    (session.emit events).transcript = session.transcript ++ events := by
  simp [transcript, emit]

def log (session : Session) (level : LogLevel) (message : String) : Session :=
  session.emit [.log level message]

def report (session : Session) (error : ShellError) : Session :=
  session.emit error.report

def setStatus (session : Session) (status : Int) : Session :=
  { session with state := { session.state with lastStatus := status } }

def setEnvironment (session : Session) (environment : Environment) : Session :=
  { session with state := { session.state with environment } }

/-- Asks the shell to end after the current pipeline. -/
def leave (session : Session) : Session :=
  { session with state := { session.state with shouldExit := true } }

end Session

end CommandShell
