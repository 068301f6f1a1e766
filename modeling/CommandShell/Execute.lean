import CommandShell.HereDoc
import CommandShell.Pipeline.Expand
import CommandShell.Pipeline.Shown
import CommandShell.Stage

/-!
# Running a line

All here-documents of the line are read first. Then its pipelines run one after the other, each
expanded with the environment and status that the one before left. A failed `&&` or a successful
`||` ends the whole line.
-/

namespace CommandShell

namespace Session

def scope (session : Session) : Scope where
  environment := session.state.environment
  status := session.state.lastStatus

/-- What the expansion of a pipeline leaves in the log. -/
def expansionNotes (scope : Scope) (pipeline : Pipeline) : Transcript :=
  (pipeline.commands.flatMap Command.expandedWords).map fun raw =>
    let expanded := Word.expand scope raw
    .log .trace ("展开: " ++ Text.showText raw ++ " -> " ++ Text.showText expanded.text)

/-- Expands and runs one pipeline and keeps its status. -/
def step (session : Session) (pipeline : Pipeline) : Session × Int :=
  let scope := session.scope
  let ran := (session.emit (expansionNotes scope pipeline)).runPipeline (pipeline.expand scope)
  (ran.1.setStatus ran.2, ran.2)

/-- Runs pipelines until one of them ends the line. -/
def runList (session : Session) : CommandList → Session
  | [] => session
  | pipeline :: rest =>
    let (session, status) := session.step pipeline
    if session.state.shouldExit then session
    else
      match pipeline.connective with
      | none => session.runList rest
      | some connective =>
        if connective.stops status then
          session.log .debug
            (connective.shown ++ " 短路，跳过剩余命令 (状态 " ++ toString status ++ ")")
        else session.runList rest

/-- Runs a line: the session and the source after it. -/
def execute (session : Session) (source : LineSource) (prompt : String) (list : CommandList) :
    Session × LineSource :=
  let (collection, list) := collectHereDocs prompt source list
  let session := session.emit collection.notes
  if collection.interrupted then
    ((session.log .debug "heredoc 输入被中断").setStatus interruptedStatus, collection.source)
  else (session.runList list, collection.source)

end Session

end CommandShell
