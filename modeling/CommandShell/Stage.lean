import CommandShell.Builtin
import CommandShell.Launch
import CommandShell.Redirect

/-!
# Pipelines at work

A single command without redirections that is a builtin runs in the shell itself. Everything else
runs in processes of its own, one for each command, and cannot change the shell. Each command's
output is the next one's input unless a redirection says otherwise.
-/

namespace CommandShell

/-- A finished command of a pipeline. -/
structure StageResult where
  world : World
  events : Transcript
  /-- What the next command can read. -/
  piped : Bytes := []
  termination : Termination

/-- Ends a command with an error. -/
def StageResult.failed (world : World) (notes : Transcript) (error : ShellError) : StageResult where
  world
  events := notes ++ error.report
  termination := .ofStatus error.status

/-- Runs a builtin in a process of its own. -/
def runBuiltinStage (state : ShellState) (world : World) (output : Sink) (builtin : Builtin)
    (args : List String) : StageResult :=
  let run := builtin.run args { state := state.enterChild, world } output.writer
  let bytes := run.writer.accepted
  { world := { world with files := output.store bytes world.files }
    events := run.session.transcript ++ output.events bytes
    piped := output.piped bytes
    termination := .ofStatus run.status }

/-- Runs a program. -/
def runProgramStage (state : ShellState) (world : World) (streams : Streams)
    (argv : List String) : StageResult :=
  match prepareProgram world streams.output.file? state.environment argv with
  | (.error e, notes) => .failed world notes e
  | (.ok (program, argv), notes) =>
    let completion := world.programs program (invocation world streams state.environment argv)
    { world := { world with
        files := streams.output.store completion.output completion.files
        stdin :=
          if streams.input = .inherited then world.stdin.drop completion.consumed
          else world.stdin }
      events := notes ++ [.diagnostic completion.errors] ++ streams.output.events completion.output
      piped := streams.output.piped completion.output
      termination := completion.termination }

/-- Runs one command of a pipeline between two streams. -/
def runStage (state : ShellState) (world : World) (streams : Streams) (command : Command) :
    StageResult :=
  match Redirection.applyAll { world, streams } command.redirections with
  | (wiring, .error e) => .failed wiring.world [] e
  | (wiring, .ok ()) =>
    match command.argv with
    | [] => { world := wiring.world, events := [], termination := .exited 0 }
    | name :: args =>
      match Builtin.ofName? name with
      | some builtin => runBuiltinStage state wiring.world wiring.streams.output builtin args
      | none => runProgramStage state wiring.world wiring.streams (name :: args)

/-- A finished pipeline. -/
structure PipelineResult where
  world : World
  events : Transcript
  /-- How the last command ended, if there was one. -/
  termination : Option Termination

/-- Runs the commands of a pipeline, the first one reading from `input`. -/
def runStages (state : ShellState) (world : World) (input : Source) :
    List Command → PipelineResult
  | [] => { world, events := [], termination := none }
  | [command] =>
    let stage := runStage state world { input } command
    { world := stage.world, events := stage.events, termination := some stage.termination }
  | command :: rest =>
    let stage := runStage state world { input, output := .pipe } command
    let others := runStages state stage.world (.bytes stage.piped) rest
    { others with events := stage.events ++ others.events }

/-- What the end of the last command shows. -/
def terminationEvents : Option Termination → Transcript
  | some (.killed signal) =>
    if signal = .interrupt then [.diagnostic (Bytes.ofText "\n")]
    else if signal = .quit then
      [.log .warn "子进程因 SIGQUIT 退出", .diagnostic (Bytes.ofText "Quit: 3\n")]
    else []
  | _ => []

/-- The status of a pipeline; one without commands fails. -/
def pipelineStatus (termination : Option Termination) : Int :=
  (termination.map Termination.status).getD 1

namespace Session

/-- Runs all commands of a pipeline in processes of their own. -/
def spawn (session : Session) (commands : List Command) : Session × Int :=
  let result := runStages session.state session.world .inherited commands
  let events := result.events ++ terminationEvents result.termination
  ({ session with world := result.world }.emit events, pipelineStatus result.termination)

/-- Runs a builtin in the shell itself. -/
def runBuiltin (session : Session) (builtin : Builtin) (args : List String) : Session × Int :=
  let run := builtin.run args session {}
  (run.session.emit [.output run.writer.accepted], run.status)

/-- Runs a pipeline and gives its status. -/
def runPipeline (session : Session) (pipeline : Pipeline) : Session × Int :=
  match pipeline.commands with
  | [{ argv := [], redirections := [], .. }] => (session, 0)
  | [{ argv := name :: args, redirections := [], .. }] =>
    match Builtin.ofName? name with
    | some builtin => session.runBuiltin builtin args
    | none => session.spawn pipeline.commands
  | commands => session.spawn commands

end Session

end CommandShell
