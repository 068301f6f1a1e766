import CommandShell.Proofs.StateInvariants

/-!
# Changes that commands do not notice

A change of a session is not noticed if commands see the same before and after it and if it can as
well be made after what they do. Each builtin is looked at once; pipelines and lines follow. Only
`exit` looks at the mode of the shell, so it has a lemma of its own.
-/

namespace CommandShell

namespace Session

/-- The shell itself sees the same in the changed session, and all that it does to a session
commutes with the change. To the world it makes the change `seen`. -/
structure Frame (change : Session → Session) (seen : World → World) : Prop where
  child : ∀ session, (change session).state.enterChild = session.state.enterChild
  shouldExit : ∀ session, (change session).state.shouldExit = session.state.shouldExit
  world : ∀ session, (change session).world = seen session.world
  emit : ∀ session events, (change session).emit events = change (session.emit events)
  setStatus : ∀ session status,
    (change session).setStatus status = change (session.setStatus status)
  setEnvironment : ∀ session environment,
    (change session).setEnvironment environment = change (session.setEnvironment environment)
  leave : ∀ session, (change session).leave = change session.leave
  move : ∀ session world,
    { change session with world := seen world } = change { session with world }
  current : ∀ world, (seen world).currentDirectory = world.currentDirectory
  enter : ∀ world name, (seen world).changeDirectory name = (world.changeDirectory name).map seen

/-- Processes do not notice the change in a world with the property `P`, which stays. -/
structure Unnoticed (seen : World → World) (P : World → Prop) : Prop where
  stages : ∀ state world commands, P world →
    runStages state (seen world) .inherited commands =
      { runStages state world .inherited commands with
        world := seen (runStages state world .inherited commands).world }
  invariant : Invariant fun _ world => P world

theorem unnoticed_id : Unnoticed id fun _ => True where
  stages _ _ _ _ := rfl
  invariant := invariant_of_world (fun _ _ h => h) (fun _ _ h => h) fun _ _ h => h

namespace Frame

variable {change : Session → Session} {seen : World → World}
  (h : Frame change seen) (session : Session)

include h

theorem environment : (change session).state.environment = session.state.environment := by
  have hchild := congrArg ShellState.environment (h.child session)
  exact hchild

theorem lastStatus : (change session).state.lastStatus = session.state.lastStatus := by
  have hchild := congrArg ShellState.lastStatus (h.child session)
  exact hchild

theorem history : (change session).state.history = session.state.history := by
  have hchild := congrArg ShellState.history (h.child session)
  exact hchild

theorem scope : (change session).scope = session.scope := by
  unfold Session.scope
  rw [h.environment, h.lastStatus]

end Frame

theorem changeDirectory_id (world : World) (name : String) :
    world.changeDirectory name = (world.changeDirectory name).map id := by
  cases world.changeDirectory name <;> rfl

end Session

namespace Builtin

def Outcome.under (change : Session → Session) (outcome : Outcome) : Outcome :=
  { outcome with session := change outcome.session }

/-- The builtin does its work as if the change were made after it. -/
def Respects (change : Session → Session) (builtin : Builtin) : Prop :=
  ∀ args session writer, builtin.perform args (change session) writer =
    (builtin.perform args session writer).under change

variable {change : Session → Session} {seen : World → World}
  (h : Session.Frame change seen)

include h

theorem fail_under (session : Session) (writer : Writer) (message : String) :
    fail (change session) writer message = (fail session writer message).under change := by
  unfold fail Session.report
  rw [h.emit]
  rfl

theorem changeNames_under (command : String)
    (updated : Environment → String → Option Environment) (session : Session)
    (args : List String) :
    changeNames command updated (change session) args =
      (change (changeNames command updated session args).1,
        (changeNames command updated session args).2) := by
  induction args generalizing session with
  | nil => rfl
  | cons arg rest ih =>
    rw [changeNames, changeNames, h.environment]
    split
    · rw [h.setEnvironment, ih]
    · dsimp only [Session.report]
      rw [h.emit, ih]

theorem changeDirectoryTo_under (args : List String) (session : Session) (writer : Writer) :
    changeDirectoryTo args (change session) writer =
      (changeDirectoryTo args session writer).under change := by
  unfold changeDirectoryTo previousDirectory
  rw [h.environment, h.world, h.current]
  split
  · rw [fail_under h]
  · rename_i target _ _
    rw [h.enter]
    cases session.world.changeDirectory target with
    | error cause => exact fail_under h session writer _
    | ok world =>
      dsimp only [Except.map, recordDirectories]
      rw [h.current, h.setEnvironment, h.move]
      split <;> rfl

theorem respects_of_ne_exit {builtin : Builtin} (hne : builtin ≠ .exit) :
    builtin.Respects change := by
  cases builtin with
  | echo =>
    intro args session writer
    unfold perform
    dsimp only [echoArgs]
    split
    · rfl
    · split <;> rfl
  | changeDirectory => exact changeDirectoryTo_under h
  | printDirectory =>
    intro args session writer
    unfold perform
    dsimp only [printDirectoryOf]
    rw [h.world, h.current]
    split
    · rfl
    · rw [fail_under h]
  | exportNames =>
    intro args session writer
    unfold perform
    dsimp only [exportArgs]
    rw [h.environment, changeNames_under h]
    split <;> rfl
  | unsetNames =>
    intro args session writer
    unfold perform
    dsimp only [unsetArgs]
    rw [changeNames_under h]
    rfl
  | printEnvironment =>
    intro args session writer
    unfold perform
    dsimp only [listEnvironment]
    rw [h.environment, fail_under h]
    split <;> rfl
  | exit => exact absurd rfl hne
  | history =>
    intro args session writer
    unfold perform
    dsimp only [listHistory]
    rw [h.history]
    rfl

theorem exitWith_under {args : List String} {session other : Session} {writer : Writer}
    (htold : (if other.state.interactive then
        other.emit [.diagnostic (Bytes.ofText "exit\n")] else other) =
      change (if session.state.interactive then
        session.emit [.diagnostic (Bytes.ofText "exit\n")] else session)) :
    exitWith args other writer = (exitWith args session writer).under change := by
  unfold exitWith
  dsimp only
  rw [htold]
  generalize (if session.state.interactive then _ else session) = told
  split
  · rw [h.leave, h.lastStatus]
    rfl
  · split
    · dsimp only [Session.report]
      rw [h.emit, h.leave]
      rfl
    · split
      · rw [h.leave]
        rfl
      · rw [fail_under h]

theorem respects_exit
    (hmode : ∀ session, (change session).state.interactive = session.state.interactive) :
    Builtin.exit.Respects change := by
  intro args session writer
  show exitWith args (change session) writer = (exitWith args session writer).under change
  apply exitWith_under h
  rw [hmode, h.emit]
  split <;> rfl

theorem Respects.run {builtin : Builtin} (hbuiltin : builtin.Respects change)
    (args : List String) (session : Session) (writer : Writer) :
    builtin.run args (change session) writer =
      { builtin.run args session writer with
        session := change (builtin.run args session writer).session } := by
  unfold Builtin.run Session.log
  dsimp only
  rw [h.emit, hbuiltin]
  dsimp only [Outcome.under]
  split
  · rfl
  · rw [h.emit]

end Builtin

section

variable {state other : ShellState} (h : state.enterChild = other.enterChild)

include h

theorem runStage_of_enterChild (world : World) (streams : Streams) (command : Command) :
    runStage state world streams command = runStage other world streams command := by
  have henvironment : state.environment = other.environment := by
    have hchild := congrArg ShellState.environment h
    exact hchild
  unfold runStage runBuiltinStage runProgramStage
  rw [h, henvironment]

theorem runStages_of_enterChild (world : World) (input : Source) (commands : List Command) :
    runStages state world input commands = runStages other world input commands := by
  induction commands generalizing world input with
  | nil => rfl
  | cons command rest ih =>
    cases rest with
    | nil => rw [runStages, runStages, runStage_of_enterChild h]
    | cons second rest =>
      rw [runStages_cons, runStages_cons, runStage_of_enterChild h]
      dsimp only
      rw [ih]

end

/-- The shell itself runs a builtin for the pipeline. -/
def Pipeline.RunsBuiltin (pipeline : Pipeline) (builtin : Builtin) (args : List String) : Prop :=
  ∃ command, pipeline.commands = [command] ∧ command.redirections = [] ∧
    command.argv = builtin.name :: args

namespace Session.Frame

variable {change : Session → Session} {seen : World → World} {P : World → Prop}
  (h : Frame change seen)

include h

theorem spawn (hseen : Unnoticed seen P) {session : Session} (hworld : P session.world)
    (commands : List Command) :
    (change session).spawn commands =
      (change (session.spawn commands).1, (session.spawn commands).2) := by
  unfold Session.spawn
  dsimp only
  rw [h.world, runStages_of_enterChild (h.child session), hseen.stages _ _ _ hworld]
  dsimp only
  rw [h.move, h.emit]

theorem runBuiltin {builtin : Builtin} (hbuiltin : builtin.Respects change) (session : Session)
    (args : List String) :
    (change session).runBuiltin builtin args =
      (change (session.runBuiltin builtin args).1, (session.runBuiltin builtin args).2) := by
  unfold Session.runBuiltin
  rw [hbuiltin.run h]
  dsimp only
  rw [h.emit]

theorem runPipeline (hseen : Unnoticed seen P) {pipeline : Pipeline}
    (hbuiltin : ∀ builtin args, pipeline.RunsBuiltin builtin args → builtin.Respects change)
    {session : Session} (hworld : P session.world) :
    (change session).runPipeline pipeline =
      (change (session.runPipeline pipeline).1, (session.runPipeline pipeline).2) := by
  unfold Session.runPipeline
  split
  · rfl
  · rename_i name args expanded hcommands
    split
    · rename_i builtin hname
      obtain rfl := Builtin.name_of_ofName? hname
      exact h.runBuiltin (hbuiltin builtin args ⟨_, hcommands, rfl, rfl⟩) session args
    · exact h.spawn hseen hworld _
  · exact h.spawn hseen hworld _

theorem step (hseen : Unnoticed seen P) {pipeline : Pipeline} {session : Session}
    (hworld : P session.world)
    (hbuiltin : ∀ builtin args,
      (pipeline.expand session.scope).RunsBuiltin builtin args → builtin.Respects change) :
    (change session).step pipeline =
      (change (session.step pipeline).1, (session.step pipeline).2) := by
  unfold Session.step
  dsimp only
  have htold : P (session.emit (expansionNotes session.scope pipeline)).world := hworld
  have hrun := h.runPipeline hseen hbuiltin htold
  rw [h.scope, h.emit, hrun, h.setStatus]

theorem runList (hseen : Unnoticed seen P)
    (hbuiltin : ∀ builtin : Builtin, builtin.Respects change) {session : Session}
    (hworld : P session.world) (list : CommandList) :
    (change session).runList list = change (session.runList list) := by
  induction list generalizing session with
  | nil => rfl
  | cons pipeline rest ih =>
    rw [Session.runList, Session.runList, h.step hseen hworld fun builtin _ _ => hbuiltin builtin]
    dsimp only [Session.log]
    rw [h.shouldExit, ih (hseen.invariant.step session pipeline hworld)]
    split
    · rfl
    · split
      · rfl
      · rw [h.emit]
        split <;> rfl

end Session.Frame

end CommandShell
