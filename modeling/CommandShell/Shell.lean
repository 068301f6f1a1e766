import CommandShell.Execute
import CommandShell.Interrupt
import CommandShell.LineSource.Logical
import CommandShell.Pipeline.Parse

/-!
# The shell loop

A shell reads a logical line, runs it and starts over until it is asked to leave or meets the end
of input. A line that cannot be read or parsed sets the status and nothing else. Every turn but
the last takes something from the source, so a source of `n` arrivals is worth at most `n + 1`
turns.
-/

namespace CommandShell

/-- A shell: the session, the lines and signals to come, and the prompts. -/
structure Shell where
  session : Session
  source : LineSource
  theme : Theme
  /-- The signals that come while each of the next command lists runs. What comes before a prompt is
  answered is the line editor's. -/
  alarms : List (List Signal) := []

/-- What one turn of the loop leaves. -/
inductive Turn where
  | again (shell : Shell)
  | finished (shell : Shell)

def Turn.shell : Turn → Shell
  | .again shell | .finished shell => shell

namespace Shell

/-- A new shell. The entries of its history can be recalled from the start, and only an
interactive shell shows a theme. -/
def start (theme : Theme) (source : LineSource) (session : Session) : Shell where
  session
  source := session.state.history.entries.foldl LineSource.addRecall source
  theme := if session.state.interactive then theme else .plain

def log (shell : Shell) (level : LogLevel) (message : String) : Shell :=
  { shell with session := shell.session.log level message }

/-- Reports an error and keeps its status. -/
def fail (shell : Shell) (error : ShellError) : Shell :=
  { shell with session := (shell.session.report error).setStatus error.status }

/-- Records a line in the history and hands it over for recall. -/
def remember (shell : Shell) (line : String) : Shell :=
  let state := shell.session.state
  if state.history.accepts line then
    { shell with
      session := { shell.session with
        state := { state with history := state.history.record line } }
      source := shell.source.addRecall line }
  else shell

/-- What scanning and validating a line leaves in the log. -/
def parseNotes (line : String) : Transcript :=
  let tokens := tokenize line
  let scanned := Event.log .debug ("词法分析结果: " ++ Text.showItems (tokens.map Token.shown))
  match Token.validate tokens with
  | .error (.unexpectedToken text) => [scanned, .log .debug ("语法错误，位置: " ++ text)]
  | _ => [scanned]

/-- How a shell takes signals: an interactive one has its handlers installed. -/
def signals (shell : Shell) : SignalState :=
  if shell.session.state.interactive then SignalState.install {} else {}

theorem handled_signals (shell : Shell) :
    shell.signals.handled = shell.session.state.interactive := by
  unfold signals
  cases shell.session.state.interactive <;> rfl

/-- Takes the signals that came while a command list ran. An interrupt is only noted. -/
def takeSignals (shell : Shell) : Shell :=
  let received := (shell.alarms.headD []).foldl SignalState.receive shell.signals
  let notes : Transcript :=
    if received.takeInterrupt.1 then [.log .debug "命令执行期间收到 SIGINT"] else []
  { shell with session := shell.session.emit notes, alarms := shell.alarms.tail }

/-- Runs a logical line. -/
def runLine (shell : Shell) (line : String) : Shell :=
  if Text.isBlank line then shell
  else
    let shell := shell.remember line
    let shell := { shell with session := shell.session.emit (parseNotes line) }
    match parseLine line with
    | .error e => shell.fail e
    | .ok list =>
      let session := shell.session.log .debug ("解析结果: " ++ CommandList.shown list)
      let (session, source) := session.execute shell.source shell.theme.hereDoc list
      { shell with session, source }.takeSignals

/-- One turn of the loop. -/
def turn (shell : Shell) : Turn :=
  if shell.session.state.shouldExit then .finished shell
  else
    let read := shell.source.readLogical shell.theme
    let shell := { shell with session := shell.session.emit read.notes, source := read.source }
    match read.result with
    | .ok (.line line) => .again (shell.runLine line)
    | .ok .interrupted =>
      .again { shell with
        session := (shell.session.log .debug "输入被中断").setStatus interruptedStatus }
    | .ok .endOfInput =>
      let shell := shell.log .debug "接收到 EOF，退出"
      let farewell : Transcript :=
        if shell.session.state.interactive then [.diagnostic (Bytes.ofText "exit\n")] else []
      .finished { shell with session := shell.session.emit farewell }
    | .error e => .again (shell.fail e)

/-- What is left of the source after the next turn. It does not hang on what the commands of the
turn do, since all here-documents are read before the first of them runs. -/
def sourceAfterTurn (shell : Shell) : LineSource :=
  let read := shell.source.readLogical shell.theme
  match read.result with
  | .ok (.line line) =>
    match parseLine line with
    | .ok list => (collectHereDocs shell.theme.hereDoc read.source list).1.source
    | .error _ => read.source
  | _ => read.source

/-- At most the given number of turns. -/
def turns : Nat → Shell → Turn
  | 0, shell => .again shell
  | limit + 1, shell =>
    match shell.turn with
    | .again shell => turns limit shell
    | .finished shell => .finished shell

/-- The loop, from first to last turn. -/
def loop (shell : Shell) : Shell :=
  (turns (shell.source.arrivals.length + 1) shell).shell

/-- Saves the history of an interactive shell. -/
def saveHistory (shell : Shell) : Shell :=
  let session := shell.session
  let history := session.state.history
  if !session.state.interactive then shell
  else
    let (world, result) := history.save session.world
    let shell := { shell with session := { session with world } }
    match result, history.path with
    | .error cause, _ => shell.log .warn ("保存历史记录失败: " ++ cause.detail)
    | .ok (), none => shell
    | .ok (), some path => shell.log .debug ("历史记录保存成功: " ++ path)

/-- Runs a shell to its end, its turns taken by `loop`. -/
def runWith (loop : Shell → Shell) (shell : Shell) : Shell :=
  let interactive := shell.session.state.interactive
  let shell := shell.log .debug ("初始化 minishell (交互模式: " ++ showBool interactive ++ ")")
  let shell := if shell.signals.handled then shell.log .debug "信号处理器已安装" else shell
  let shell := (loop shell).saveHistory
  shell.log .info ("退出 minishell，状态 " ++ toString shell.session.state.lastStatus)

/-- Runs a shell to its end. -/
def run (shell : Shell) : Shell :=
  shell.runWith loop

/-- The status a shell ends with. -/
def status (shell : Shell) : Int :=
  shell.session.state.lastStatus

end Shell

end CommandShell
